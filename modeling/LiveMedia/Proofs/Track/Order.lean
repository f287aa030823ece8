import LiveMedia.Proofs.Track.Run
import Mathlib.Data.List.Induction
import Mathlib.Data.Prod.Lex
import Mathlib.Order.Lattice

set_option autoImplicit false

/-!
# The order of released packets

If the packets of each track arrive in order of their times, all packets are released in order of
their times, and at equal times in order of their tracks.

## Main definitions

* `LiveMedia.TrackSet.orderKey` — the time and the track that a packet is ordered by.
* `LiveMedia.TrackSet.Waiting` — a packet is in one of the queues.
* `LiveMedia.TrackSet.InOrder` — every queue is in order.

## Main results

* `LiveMedia.TrackSet.Releases.ordered` — what is released from queues in order is in order, and
  nothing that waits comes before it.
* `LiveMedia.TrackSet.run_ordered` — the order of all packets released in a run.

## Design

A run releases what can be released when all its packets are queued beforehand
(`TrackSet.releases_run`). So the order of a run is the order of a release from a set on which
nothing arrives any more, and packets pushed later are packets that wait there.
-/

namespace LiveMedia.TrackSet

variable {s s' : TrackSet} {p q : Packet} {ps : List Packet} {t : TrackId}

/-! ## Keys -/

/-- What a head is ordered by: its time, then its track. -/
def Head.key (h : Head) : Int ×ₗ TrackId :=
  toLex (h.time, h.track)

/-- What a packet is ordered by: its time on its track, then the track. -/
def orderKey (s : TrackSet) (p : Packet) : Int ×ₗ TrackId :=
  toLex ((s.queue? p.track).elim maxInt64 (·.orderTime p), p.track)

lemma Head.before_iff {a b : Head} : a.before b = true ↔ a.key < b.key := by
  simp [Head.before, Head.key, Prod.Lex.toLex_lt_toLex]

/-- The earlier of two heads has the smaller key. -/
lemma Head.key_earlier (a b : Head) : (a.earlier b).key = min a.key b.key := by
  unfold Head.earlier
  split
  · rename_i h
    exact (min_eq_right (Head.before_iff.1 h).le).symm
  · rename_i h
    rw [Head.before_iff, not_lt] at h
    exact (min_eq_left h).symm

/-- The head that is released first has the smallest key. -/
lemma key_le_of_earliest? {hs : List Head} {h : Head} (he : earliest? hs = some h) :
    ∀ g ∈ hs, h.key ≤ g.key := by
  cases hs with
  | nil => cases he
  | cons f fs =>
    simp only [earliest?, Option.some.injEq] at he
    subst he
    induction fs generalizing f with
    | nil =>
      intro g hg
      rw [List.mem_singleton.1 hg]
      exact le_rfl
    | cons e es ih =>
      have hle := ih (f.earlier e) _ (.head _)
      rw [Head.key_earlier] at hle
      intro g hg
      rw [List.foldl_cons]
      rcases List.mem_cons.1 hg with rfl | hg
      · exact hle.trans (min_le_left _ _)
      rcases List.mem_cons.1 hg with rfl | hg
      · exact hle.trans (min_le_right _ _)
      · exact ih (f.earlier e) g (.tail _ hg)

/-- The timebase of a declared track. -/
def timebase? (s : TrackSet) (t : TrackId) : Option Timebase :=
  (s.queue? t).map TrackQueue.timebase

lemma contains_eq (s : TrackSet) (t : TrackId) : s.contains t = (s.timebase? t).isSome := by
  simp only [timebase?, Option.isSome_map]
  rfl

/-- Queueing leaves the tracks and their timebases. -/
lemma timebase?_enqueue (s : TrackSet) (p : Packet) : (s.enqueue p).timebase? = s.timebase? := by
  funext t
  rw [timebase?, queue?_enqueue]
  split
  · rw [Option.map_map]
    rfl
  · rfl

/-- Taking a packet leaves the tracks and their timebases. -/
lemma timebase?_dequeue (s : TrackSet) (u : TrackId) : (s.dequeue u).timebase? = s.timebase? := by
  funext t
  rw [timebase?, queue?_dequeue]
  split
  · rw [Option.map_map]
    rfl
  · rfl

lemma timebase?_foldl_enqueue (ps : List Packet) (s : TrackSet) :
    (ps.foldl enqueue s).timebase? = s.timebase? := by
  induction ps generalizing s with
  | nil => rfl
  | cons p ps ih => rw [List.foldl_cons, ih, timebase?_enqueue]

/-- Keys depend on the timebases of the tracks only. -/
lemma orderKey_congr (h : s.timebase? = s'.timebase?) : s.orderKey = s'.orderKey := by
  funext p
  have ht := congrFun h p.track
  unfold timebase? at ht
  unfold orderKey
  cases hq : s.queue? p.track <;> cases hr : s'.queue? p.track <;> simp_all [TrackQueue.orderTime]

/-! ## Queues in order -/

/-- A packet is in one of the queues. -/
def Waiting (s : TrackSet) (p : Packet) : Prop :=
  ∃ t q, s.queue? t = some q ∧ p ∈ q.packets

/-- The packets of every queue are in order of their times. -/
def InOrder (s : TrackSet) : Prop :=
  ∀ t q, s.queue? t = some q → (q.packets.map q.orderTime).Pairwise (· ≤ ·)

lemma orderKey_of_filed {r : TrackQueue} (hs : s.Filed) (hr : s.queue? t = some r)
    (hp : p ∈ r.packets) : s.orderKey p = toLex (r.orderTime p, t) := by
  have ht := hs t r hr p hp
  simp only [orderKey, ht, hr, Option.elim_some]

/-- What waits after the head of a track is taken has waited before. -/
lemma Waiting.of_dequeue (h : (s.dequeue t).Waiting p) : s.Waiting p := by
  obtain ⟨u, r, hr, hp⟩ := h
  rw [queue?_dequeue] at hr
  split at hr
  · obtain ⟨r', hr', rfl⟩ := Option.map_eq_some_iff.1 hr
    exact ⟨u, r', hr', List.mem_of_mem_tail hp⟩
  · exact ⟨u, r, hr, hp⟩

lemma InOrder.dequeue (h : s.InOrder) (t : TrackId) : (s.dequeue t).InOrder := by
  intro u r hr
  rw [queue?_dequeue] at hr
  split at hr
  · obtain ⟨r', hr', rfl⟩ := Option.map_eq_some_iff.1 hr
    have htail : r'.tail.packets.map r'.tail.orderTime = (r'.packets.map r'.orderTime).tail :=
      List.map_tail
    rw [htail]
    exact (h u r' hr').tail
  · exact h u r hr

/-- The first packet of a queue in order comes before all others. -/
lemma orderTime_head_le {r : TrackQueue} {rest : List Packet} (hs : s.InOrder)
    (hr : s.queue? t = some r) (hp : r.packets = p :: rest) (hq : q ∈ r.packets) :
    r.orderTime p ≤ r.orderTime q := by
  have h := hs t r hr
  rw [hp, List.map_cons, List.pairwise_cons] at h
  rw [hp] at hq
  rcases List.mem_cons.1 hq with rfl | hq
  · exact le_rfl
  · exact h.1 _ (List.mem_map_of_mem hq)

/-- **The packet that is released comes before all that wait.**

**Proof sketch.** It is the earliest of the heads, and the head of each queue comes before the
packets behind it. -/
lemma orderKey_le_of_pop? (hpop : s.pop? = some (p, s')) (hf : s.Filed) (ho : s.InOrder)
    (hq : s.Waiting q) : s.orderKey p ≤ s.orderKey q := by
  obtain ⟨hr, h, he, rfl, -⟩ := pop?_eq_some_iff.1 hpop
  obtain ⟨r, hr, hp, ht⟩ := mem_heads_iff.1 (mem_of_earliest? he)
  obtain ⟨u, r', hr', hq⟩ := hq
  obtain ⟨g, gs, hg⟩ := List.exists_cons_of_ne_nil (List.ne_nil_of_mem hq)
  have hhead : (⟨r'.orderTime g, u, g⟩ : Head) ∈ s.heads :=
    mem_heads_iff.2 ⟨r', hr', by simp [TrackQueue.head?, hg], rfl⟩
  calc s.orderKey h.packet
      = h.key := by
        rw [orderKey_of_filed hf hr (List.mem_of_mem_head? hp), Head.key, ht]
    _ ≤ toLex (r'.orderTime g, u) := key_le_of_earliest? he _ hhead
    _ ≤ toLex (r'.orderTime q, u) := by
        rw [Prod.Lex.toLex_le_toLex]
        rcases (orderTime_head_le ho hr' hg hq).lt_or_eq with hlt | heq
        · exact Or.inl hlt
        · exact Or.inr ⟨heq, le_rfl⟩
    _ = s.orderKey q := (orderKey_of_filed hf hr' hq).symm

namespace Releases

/-- Releasing packets leaves the tracks and their timebases. -/
lemma timebase?_eq (h : Releases s ps s') : s'.timebase? = s.timebase? := by
  induction h with
  | nil s => rfl
  | cons hpop _ ih =>
    obtain ⟨t, _, _, _, _, rfl⟩ := exists_of_pop? hpop
    rw [ih, timebase?_dequeue]

/-- What is released or left over has waited. -/
lemma waiting (h : Releases s ps s') :
    (∀ p ∈ ps, s.Waiting p) ∧ ∀ p, s'.Waiting p → s.Waiting p := by
  induction h with
  | nil s => exact ⟨by simp, fun _ => id⟩
  | cons hpop _ ih =>
    obtain ⟨t, r, rest, hr, hp, rfl⟩ := exists_of_pop? hpop
    refine ⟨?_, fun p hw => (ih.2 p hw).of_dequeue⟩
    intro p hmem
    rcases List.mem_cons.1 hmem with rfl | hmem
    · exact ⟨t, r, hr, hp ▸ .head _⟩
    · exact (ih.1 p hmem).of_dequeue

/-- **What is released from queues in order is in order**, and nothing that waits afterwards comes
before it.

**Proof sketch.** Induction on the release: the packet released first comes before all that wait
(`orderKey_le_of_pop?`), and the later ones have waited at that time. -/
lemma ordered (h : Releases s ps s') (hf : s.Filed) (ho : s.InOrder) :
    ps.Pairwise (fun p q => s.orderKey p ≤ s.orderKey q) ∧
      ∀ p ∈ ps, ∀ q, s'.Waiting q → s.orderKey p ≤ s.orderKey q := by
  induction h with
  | nil s => exact ⟨.nil, by simp⟩
  | @cons s s₁ s' p ps hpop hrest ih =>
    have hle : ∀ q, s₁.Waiting q → s.orderKey p ≤ s.orderKey q := by
      obtain ⟨t, _, _, _, _, rfl⟩ := exists_of_pop? hpop
      exact fun q hq => orderKey_le_of_pop? hpop hf ho hq.of_dequeue
    obtain ⟨t, _, _, _, _, rfl⟩ := exists_of_pop? hpop
    obtain ⟨hsorted, hrem⟩ := ih (hf.dequeue t) (ho.dequeue t)
    rw [orderKey_congr (timebase?_dequeue s t)] at hsorted hrem
    refine ⟨List.pairwise_cons.2 ⟨fun q hq => hle q (hrest.waiting.1 q hq), hsorted⟩, ?_⟩
    intro r hr q hq
    rcases List.mem_cons.1 hr with rfl | hr
    · exact hle q (hrest.waiting.2 q hq)
    · exact hrem r hr q hq

/-- A release is a run of pops. -/
lemma run_replicate_pop (h : Releases s ps s') :
    s.run (List.replicate ps.length .pop) = (ps, s') := by
  induction h with
  | nil s => rfl
  | cons hpop _ ih =>
    rw [List.length_cons, List.replicate_succ, run]
    simp only [act, hpop, Option.elim_some, ih, List.singleton_append]

end Releases

/-! ## Declared tracks -/

/-- The set of tracks that are declared one after another, each with its timebase. -/
def declare (tracks : List (TrackId × Timebase)) : TrackSet :=
  tracks.foldl (fun s d => s.create d.1 d.2) {}

/-- Nothing waits on tracks that have only been declared. -/
lemma packets_of_declare {tracks : List (TrackId × Timebase)} {r : TrackQueue}
    (hr : (declare tracks).queue? t = some r) : r.packets = [] := by
  unfold declare at hr
  induction tracks using List.reverseRecOn with
  | nil => cases hr
  | append_singleton ds d ih =>
    rw [List.foldl_append, List.foldl_cons, List.foldl_nil, queue?_create] at hr
    split at hr
    · cases hr
      rfl
    · exact ih hr

/-- What is queued on declared tracks is what waits there. -/
lemma queue?_foldl_enqueue_declare {tracks : List (TrackId × Timebase)} {as : List Action}
    {r : TrackQueue} (hr : ((pushes as).foldl enqueue (declare tracks)).queue? t = some r) :
    ∃ r', (declare tracks).queue? t = some r' ∧ r.timebase = r'.timebase ∧
      r.packets = pushedOn t as := by
  rw [queue?_foldl_enqueue] at hr
  obtain ⟨r', hr', rfl⟩ := Option.map_eq_some_iff.1 hr
  refine ⟨r', hr', rfl, ?_⟩
  simp only [packets_of_declare hr', List.nil_append, pushedOn]

/-- What waits, or is queued on a declared track, waits once it is queued. -/
lemma waiting_foldl_enqueue {as : List Action}
    (h : s.Waiting q ∨ q ∈ pushes as ∧ s.contains q.track = true) :
    ((pushes as).foldl enqueue s).Waiting q := by
  rcases h with ⟨u, r, hr, hq⟩ | ⟨hq, hc⟩
  · refine ⟨u, _, (queue?_foldl_enqueue _ _ _).trans (congrArg _ hr), ?_⟩
    exact List.mem_append_left _ hq
  · obtain ⟨r, hr⟩ := Table.contains_iff.1 hc
    refine ⟨q.track, _, (queue?_foldl_enqueue _ _ _).trans (congrArg _ hr), ?_⟩
    exact List.mem_append_right _ (List.mem_filter.2 ⟨hq, by simp⟩)

/-! ## Runs in order -/

/-- **Packets are released in order.** Let tracks be declared and let the packets that a run queues
on each of them be in order of their times. Then the packets that the run releases are in order of
their times, and at equal times in order of their tracks. Whatever still waits in the midst of the
run, or is queued on a declared track later, does not come before what has been released. No
packet is released while some queue is empty, and a drain releases what pops release one by one.
The same holds of the runs of a feed, which do to its tracks what they do to a track set.

**Proof sketch.** The whole run releases packets from the set with all packets queued
(`releases_run`), whose queues are in order, so `Releases.ordered` applies. The first part of the
run releases its packets from the set with the first packets queued, and just the same when the
later ones are queued as well (`Releases.foldl_enqueue`); they wait in what is left over. -/
theorem run_ordered (tracks : List (TrackId × Timebase)) (as bs : List Action)
    (h : ∀ t r, (declare tracks).queue? t = some r →
      ((pushedOn t (as ++ bs)).map r.orderTime).Pairwise (· ≤ ·)) :
    ((declare tracks).run (as ++ bs)).1.Pairwise
        (fun p q => (declare tracks).orderKey p ≤ (declare tracks).orderKey q) ∧
    (∀ p ∈ ((declare tracks).run as).1, ∀ q, ((declare tracks).run as).2.Waiting q ∨
        q ∈ pushes bs ∧ (declare tracks).contains q.track = true →
      (declare tracks).orderKey p ≤ (declare tracks).orderKey q) ∧
    (∀ p s', ((declare tracks).run as).2.pop? = some (p, s') →
      ∀ t r, ((declare tracks).run as).2.queue? t = some r → r.packets ≠ []) ∧
    (∃ n, ((declare tracks).run as).2.drain =
      ((declare tracks).run as).2.run (List.replicate n .pop)) ∧
    ∀ (f : Feed) (cs : List Action), f.tracks = declare tracks →
      (f.run cs).1 = ((declare tracks).run cs).1 ∧
        (f.run cs).2.tracks = ((declare tracks).run cs).2 := by
  set s := declare tracks
  set all := (pushes (as ++ bs)).foldl enqueue s with hall
  have hfiled : all.Filed := by
    intro t r hr p hp
    obtain ⟨r', -, -, hpackets⟩ := queue?_foldl_enqueue_declare hr
    rw [hpackets] at hp
    simpa using (List.mem_filter.1 hp).2
  have horder : all.InOrder := by
    intro t r hr
    obtain ⟨r', hr', htb, hpackets⟩ := queue?_foldl_enqueue_declare hr
    have htime : r.orderTime = r'.orderTime := funext (TrackQueue.orderTime_congr htb)
    rw [hpackets, htime]
    exact h t r' hr'
  have hkey : all.orderKey = s.orderKey := orderKey_congr (timebase?_foldl_enqueue _ _)
  refine ⟨?_, ?_, ?_, ?_, ?_⟩
  · have := ((releases_run s (as ++ bs)).ordered hfiled horder).1
    rwa [hkey] at this
  · intro p hp q hq
    -- the first part of the run, with the packets of the second one queued beforehand
    have hfirst := (releases_run s as).foldl_enqueue (pushes bs)
    rw [← List.foldl_append, ← pushes_append, ← hall] at hfirst
    have hsame : (s.run as).2.contains q.track = s.contains q.track := by
      rw [contains_eq, contains_eq, (releases_run s as).timebase?_eq, timebase?_foldl_enqueue]
    have hwait : ((pushes bs).foldl enqueue (s.run as).2).Waiting q := by
      rw [← hsame] at hq
      exact waiting_foldl_enqueue hq
    have := (hfirst.ordered hfiled horder).2 p hp q hwait
    rwa [hkey] at this
  · intro p s' hpop
    exact (allReady_iff.1 (pop?_eq_some_iff.1 hpop).1).2
  · exact ⟨_, (releases_drain _).run_replicate_pop.symm⟩
  · rintro f cs hf
    rw [← hf]
    exact Prod.ext_iff.1 (Feed.run_eq f cs)

/-- Three tracks, the last of which has no usable timebase; two packets come at the same time. -/
theorem run_ordered_three_tracks :
    let tracks : List (TrackId × Timebase) := [(7, .millis), (3, ⟨1, 90000⟩), (5, ⟨1, 0⟩)]
    let as : List Action := [.push (.blank 7 40), .push (.blank 5 9), .push (.blank 3 3600), .pop,
      .push (.blank 3 3600)]
    let bs : List Action := [.push (.blank 5 1), .drain, .push (.blank 3 7200), .push (.blank 7 80),
      .drain]
    (∀ t r, (declare tracks).queue? t = some r →
      ((pushedOn t (as ++ bs)).map r.orderTime).Pairwise (· ≤ ·)) ∧
    ((declare tracks).run (as ++ bs)).1.Pairwise
      (fun p q => (declare tracks).orderKey p ≤ (declare tracks).orderKey q) := by
  intro tracks as bs
  have h : ∀ t r, (declare tracks).queue? t = some r →
      ((pushedOn t (as ++ bs)).map r.orderTime).Pairwise (· ≤ ·) := by
    intro t r hr
    simp only [tracks, declare, List.foldl_cons, List.foldl_nil, queue?_create] at hr
    split_ifs at hr with h5 h3 h7
    · subst h5; cases hr; decide
    · subst h3; cases hr; decide
    · subst h7; cases hr; decide
    · cases hr
  exact ⟨h, (run_ordered tracks as bs h).1⟩

end LiveMedia.TrackSet
