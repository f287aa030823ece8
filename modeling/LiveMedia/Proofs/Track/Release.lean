import LiveMedia.Track.Set
import Mathlib.Algebra.GroupWithZero.Nat
import Mathlib.Algebra.Order.BigOperators.Group.List
import Mathlib.Algebra.Order.Group.Nat
import Mathlib.Tactic.Lemma

set_option autoImplicit false

/-!
# Releasing packets from a track set

What a track set releases, packet after packet. A packet that can be released stays the one that is
released next when another packet is queued behind the heads, so releasing and queueing commute.

## Main definitions

* `LiveMedia.TrackSet.enqueue` — a packet queued on its track, if the track is declared.
* `LiveMedia.TrackSet.Releases` — popping packet after packet takes one set to another.
* `LiveMedia.TrackSet.Filed` — every packet is in the queue of its track.

## Main results

* `LiveMedia.TrackSet.pop?_enqueue` — releasing and queueing commute.
* `LiveMedia.TrackSet.Releases.comparable`, `LiveMedia.TrackSet.Releases.unique` — what is released
  is determined by the set.
* `LiveMedia.TrackSet.Releases.queue?_eq_some` — on every track the first packets are released.
* `LiveMedia.TrackSet.releases_drain`, `LiveMedia.TrackSet.pop?_drain` — a drain releases packet
  after packet until nothing can be released.
-/

namespace LiveMedia

/-! ## Queues -/

namespace TrackQueue

@[simp] lemma push_timebase (q : TrackQueue) (p : Packet) : (q.push p).timebase = q.timebase := rfl

@[simp] lemma push_packets (q : TrackQueue) (p : Packet) :
    (q.push p).packets = q.packets ++ [p] := rfl

@[simp] lemma tail_packets (q : TrackQueue) : q.tail.packets = q.packets.tail := rfl

/-- The packets of a queue are ordered by the timebase alone. -/
lemma orderTime_congr {q r : TrackQueue} (h : q.timebase = r.timebase) (p : Packet) :
    q.orderTime p = r.orderTime p := by
  simp only [orderTime, h]

/-- The first packet stays when another one is queued behind it. -/
lemma head?_push {q : TrackQueue} (h : q.packets ≠ []) (p : Packet) :
    (q.push p).head? = q.head? := by
  simp only [head?, push_packets]
  exact List.head?_append_of_ne_nil _ h

/-- Taking the first packet and queueing another one commute. -/
lemma tail_push {q : TrackQueue} (h : q.packets ≠ []) (p : Packet) :
    (q.push p).tail = q.tail.push p := by
  simp only [tail, push]
  rw [List.tail_append_of_ne_nil h]

end TrackQueue

namespace TrackSet

variable {s s' s₁ s₂ : TrackSet} {p p' : Packet} {t : TrackId}

/-- Sets with equal queues are equal. -/
lemma ext_queue? (h : ∀ t, s.queue? t = s'.queue? t) : s = s' := by
  cases s
  cases s'
  exact congrArg TrackSet.mk (Table.ext_get? h)

/-! ## Declaring and removing -/

/-- A declared track has a new, empty queue. -/
lemma queue?_create (s : TrackSet) (u : TrackId) (tb : Timebase) (t : TrackId) :
    (s.create u tb).queue? t = if t = u then some { timebase := tb } else s.queue? t :=
  Table.get?_insert _ _ _ _

lemma queue?_remove (s : TrackSet) (u t : TrackId) :
    (s.remove u).queue? t = if t = u then none else s.queue? t :=
  Table.get?_erase _ _ _

/-! ## Queueing -/

/-- The set with a packet queued on its track. If the track is not declared, nothing changes. -/
def enqueue (s : TrackSet) (p : Packet) : TrackSet :=
  ⟨s.tracks.modify p.track (·.push p)⟩

/-- Queueing a packet affects the queue of its own track. -/
lemma queue?_enqueue (s : TrackSet) (p : Packet) (t : TrackId) :
    (s.enqueue p).queue? t = if t = p.track then (s.queue? t).map (·.push p) else s.queue? t :=
  Table.get?_modify _ _ _ _

/-- A packet of a track that is not declared changes nothing. -/
lemma getD_push? (s : TrackSet) (p : Packet) : (s.push? p).getD s = s.enqueue p := by
  unfold push?
  split
  · rfl
  · rename_i h
    refine ext_queue? fun t => ?_
    rw [Option.getD_none, queue?_enqueue]
    split
    · rename_i ht
      have hnone : s.queue? t = none := by
        subst ht
        simpa [contains, Table.contains, queue?] using h
      rw [hnone, Option.map_none]
    · rfl

/-- Queueing a list of packets appends to every queue the packets of its track. -/
lemma queue?_foldl_enqueue (ps : List Packet) (s : TrackSet) (t : TrackId) :
    (ps.foldl enqueue s).queue? t = (s.queue? t).map fun q =>
      { q with packets := q.packets ++ ps.filter (·.track = t) } := by
  induction ps generalizing s with
  | nil => simp
  | cons p ps ih =>
    rw [List.foldl_cons, ih, queue?_enqueue]
    by_cases ht : t = p.track
    · cases s.queue? t <;> simp [ht]
    · simp [ht, Ne.symm ht]

/-! ## The heads -/

/-- The set is ready if it has tracks and every queue has a packet. -/
lemma allReady_iff : s.allReady = true ↔
    (∃ t q, s.queue? t = some q) ∧ ∀ t q, s.queue? t = some q → q.packets ≠ [] := by
  have hne : (!s.tracks.isEmpty) = true ↔ ∃ t q, s.queue? t = some q := by
    simp only [Table.isEmpty, queue?, Table.get?_eq_some_iff]
    cases s.tracks.entries with
    | nil => simp
    | cons e rest =>
      simp only [List.isEmpty_cons, Bool.not_false, true_iff]
      exact ⟨e.1, e.2, .head _⟩
  have hall : s.tracks.values.all (!·.isEmpty) = true ↔
      ∀ t q, s.queue? t = some q → q.packets ≠ [] := by
    simp only [List.all_eq_true, Table.mem_values_iff, TrackQueue.isEmpty, queue?]
    constructor
    · intro h t q hq
      simpa using h q ⟨t, hq⟩
    · rintro h q ⟨t, hq⟩
      simpa using h t q hq
  rw [allReady, Bool.and_eq_true, hne, hall]

/-- The heads are the first packets of the queues, each with its time and its track. -/
lemma mem_heads_iff {h : Head} : h ∈ s.heads ↔
    ∃ q, s.queue? h.track = some q ∧ q.head? = some h.packet ∧ h.time = q.orderTime h.packet := by
  simp only [heads, List.mem_filterMap, queue?, Table.get?_eq_some_iff]
  constructor
  · rintro ⟨⟨t, q⟩, he, hq⟩
    obtain ⟨p, hp, rfl⟩ := Option.map_eq_some_iff.1 hq
    exact ⟨q, he, hp, rfl⟩
  · rintro ⟨q, he, hp, ht⟩
    refine ⟨(h.track, q), he, ?_⟩
    simp only [hp, Option.map_some, ← ht]

/-- The head that is released first is one of the heads. -/
lemma mem_of_earliest? {hs : List Head} {h : Head} (he : earliest? hs = some h) : h ∈ hs := by
  cases hs with
  | nil => cases he
  | cons g gs =>
    simp only [earliest?, Option.some.injEq] at he
    subst he
    induction gs generalizing g with
    | nil => exact .head _
    | cons f fs ih =>
      rw [List.foldl_cons]
      rcases List.mem_cons.1 (ih (g.earlier f)) with heq | hmem
      · rw [heq]
        unfold Head.earlier
        split
        · exact .tail _ (.head _)
        · exact .head _
      · exact .tail _ (.tail _ hmem)

/-- There is a first head unless there are no heads. -/
lemma isSome_earliest? {hs : List Head} : (earliest? hs).isSome = true ↔ hs ≠ [] := by
  cases hs <;> simp [earliest?]

/-! ## Popping -/

/-- The set without the first packet of a track. -/
def dequeue (s : TrackSet) (t : TrackId) : TrackSet :=
  ⟨s.tracks.modify t TrackQueue.tail⟩

lemma queue?_dequeue (s : TrackSet) (u t : TrackId) :
    (s.dequeue u).queue? t = if t = u then (s.queue? t).map TrackQueue.tail else s.queue? t :=
  Table.get?_modify _ _ _ _

/-- A packet is released from a ready set: the earliest of the heads. -/
lemma pop?_eq_some_iff : s.pop? = some (p, s') ↔
    s.allReady = true ∧
      ∃ h, earliest? s.heads = some h ∧ h.packet = p ∧ s.dequeue h.track = s' := by
  unfold pop?
  split
  · rename_i hr
    simp [hr, dequeue]
  · rename_i hr
    simp [hr]

/-- A set is ready exactly if it releases a packet. -/
lemma pop?_eq_none_iff : s.pop? = none ↔ s.allReady = false := by
  constructor
  · intro h
    by_contra hr
    rw [Bool.not_eq_false] at hr
    obtain ⟨⟨t, q, hq⟩, hall⟩ := allReady_iff.1 hr
    obtain ⟨p, hp⟩ : ∃ p, q.head? = some p := by
      cases hc : q.packets with
      | nil => exact absurd hc (hall t q hq)
      | cons p ps => exact ⟨p, by simp [TrackQueue.head?, hc]⟩
    have hne : s.heads ≠ [] :=
      List.ne_nil_of_mem (mem_heads_iff (h := ⟨q.orderTime p, t, p⟩).2 ⟨q, hq, hp, rfl⟩)
    obtain ⟨h', he⟩ := Option.isSome_iff_exists.1 (isSome_earliest?.2 hne)
    have hpop := pop?_eq_some_iff.2 ⟨hr, h', he, rfl, rfl⟩
    rw [h] at hpop
    cases hpop
  · intro h
    unfold pop?
    simp [h]

/-- The packet released is the first one of a queue; it is taken from there and nothing else
changes. -/
lemma exists_of_pop? (hpop : s.pop? = some (p, s')) :
    ∃ t q rest, s.queue? t = some q ∧ q.packets = p :: rest ∧ s' = s.dequeue t := by
  obtain ⟨_, h, he, rfl, rfl⟩ := pop?_eq_some_iff.1 hpop
  obtain ⟨q, hq, hp, _⟩ := mem_heads_iff.1 (mem_of_earliest? he)
  obtain ⟨rest, hrest⟩ := List.head?_eq_some_iff.1 hp
  exact ⟨h.track, q, rest, hq, hrest, rfl⟩

/-! ## Releasing and queueing commute -/

/-- A ready set stays ready when a packet is queued. -/
lemma allReady_enqueue (h : s.allReady = true) (p : Packet) : (s.enqueue p).allReady = true := by
  obtain ⟨⟨t, q, hq⟩, hall⟩ := allReady_iff.1 h
  refine allReady_iff.2 ⟨?_, fun u r hr => ?_⟩
  · refine ⟨t, if t = p.track then q.push p else q, ?_⟩
    rw [queue?_enqueue, hq]
    split <;> rfl
  · rw [queue?_enqueue] at hr
    split at hr
    · obtain ⟨r', _, rfl⟩ := Option.map_eq_some_iff.1 hr
      simp
    · exact hall u r hr

/-- A ready set keeps its heads when a packet is queued. -/
lemma heads_enqueue (h : s.allReady = true) (p : Packet) : (s.enqueue p).heads = s.heads := by
  have hall := (allReady_iff.1 h).2
  simp only [heads, enqueue, Table.modify, Table.map, List.filterMap_map]
  refine List.filterMap_congr ?_
  rintro ⟨t, q⟩ he
  have hq : q.packets ≠ [] := hall t q (Table.get?_eq_some_iff.2 he)
  dsimp only [Function.comp]
  split
  · rw [TrackQueue.head?_push hq]
    rfl
  · rfl

/-- Taking the head of a track and queueing a packet commute. -/
lemma dequeue_enqueue {q : TrackQueue} (hq : s.queue? t = some q) (hne : q.packets ≠ [])
    (p : Packet) : (s.enqueue p).dequeue t = (s.dequeue t).enqueue p := by
  refine ext_queue? fun u => ?_
  simp only [queue?_dequeue, queue?_enqueue]
  by_cases hu : u = t
  · subst hu
    rw [hq]
    by_cases hp : u = p.track
    · simp [hp, TrackQueue.tail_push hne]
    · simp [hp]
  · simp [hu]

/-- **Releasing and queueing commute**: what is released next does not depend on a packet that is
queued behind the heads. -/
lemma pop?_enqueue (hpop : s.pop? = some (p, s')) (p' : Packet) :
    (s.enqueue p').pop? = some (p, s'.enqueue p') := by
  obtain ⟨hr, h, he, rfl, rfl⟩ := pop?_eq_some_iff.1 hpop
  obtain ⟨q, hq, _, _⟩ := mem_heads_iff.1 (mem_of_earliest? he)
  refine pop?_eq_some_iff.2 ⟨allReady_enqueue hr p', h, ?_, rfl, ?_⟩
  · rw [heads_enqueue hr, he]
  · exact dequeue_enqueue hq ((allReady_iff.1 hr).2 _ _ hq) p'

/-! ## Packet after packet -/

/-- Popping packet after packet takes the first set to the second and releases the packets. -/
inductive Releases : TrackSet → List Packet → TrackSet → Prop
  | nil (s : TrackSet) : Releases s [] s
  | cons {s s₁ s' : TrackSet} {p : Packet} {ps : List Packet} (hpop : s.pop? = some (p, s₁))
      (rest : Releases s₁ ps s') : Releases s (p :: ps) s'

namespace Releases

variable {ps qs : List Packet}

/-- One pop releases one packet. -/
lemma single (h : s.pop? = some (p, s')) : Releases s [p] s' :=
  .cons h (.nil s')

/-- What is released one after the other. -/
lemma append (h : Releases s ps s₁) (h' : Releases s₁ qs s') : Releases s (ps ++ qs) s' := by
  induction h with
  | nil s => exact h'
  | cons hpop _ ih => exact .cons hpop (ih h')

/-- Queueing a packet beforehand changes nothing of what is released. -/
lemma enqueue (h : Releases s ps s') (p : Packet) :
    Releases (s.enqueue p) ps (s'.enqueue p) := by
  induction h with
  | nil s => exact .nil _
  | cons hpop _ ih => exact .cons (pop?_enqueue hpop p) ih

/-- Queueing packets beforehand changes nothing of what is released. -/
lemma foldl_enqueue (h : Releases s ps s') (qs : List Packet) :
    Releases (qs.foldl TrackSet.enqueue s) ps (qs.foldl TrackSet.enqueue s') := by
  induction qs generalizing s s' with
  | nil => exact h
  | cons q qs ih => exact ih (h.enqueue q)

/-- Of two releases from the same set, one continues the other. -/
lemma comparable (h : Releases s ps s₁) (h' : Releases s qs s₂) : ps <+: qs ∨ qs <+: ps := by
  induction h generalizing qs with
  | nil s => exact Or.inl (List.nil_prefix)
  | cons hpop _ ih =>
    cases h' with
    | nil => exact Or.inr (List.nil_prefix)
    | cons hpop' rest' =>
      rw [hpop] at hpop'
      cases hpop'
      simpa using ih rest'

/-- Two releases from the same set, both until nothing can be released, are the same. -/
lemma unique (h : Releases s ps s₁) (h' : Releases s qs s₂) (hs₁ : s₁.pop? = none)
    (hs₂ : s₂.pop? = none) : ps = qs ∧ s₁ = s₂ := by
  induction h generalizing qs with
  | nil s =>
    cases h' with
    | nil => exact ⟨rfl, rfl⟩
    | cons hpop' _ => rw [hs₁] at hpop'; cases hpop'
  | cons hpop _ ih =>
    cases h' with
    | nil => rw [hs₂] at hpop; cases hpop
    | cons hpop' rest' =>
      rw [hpop] at hpop'
      cases hpop'
      obtain ⟨rfl, rfl⟩ := ih rest' hs₁
      exact ⟨rfl, rfl⟩

end Releases

/-! ## Track by track -/

/-- Every packet is in the queue of its track. -/
def Filed (s : TrackSet) : Prop :=
  ∀ t q, s.queue? t = some q → ∀ p ∈ q.packets, p.track = t

lemma Filed.dequeue (h : s.Filed) (t : TrackId) : (s.dequeue t).Filed := by
  intro u r hr p hp
  rw [queue?_dequeue] at hr
  split at hr
  · obtain ⟨r', hr', rfl⟩ := Option.map_eq_some_iff.1 hr
    exact h u r' hr' p (List.mem_of_mem_tail hp)
  · exact h u r hr p hp

lemma Filed.enqueue (h : s.Filed) (p : Packet) : (s.enqueue p).Filed := by
  intro u r hr q hq
  rw [queue?_enqueue] at hr
  split at hr
  · rename_i hu
    obtain ⟨r', hr', rfl⟩ := Option.map_eq_some_iff.1 hr
    rcases List.mem_append.1 hq with hq | hq
    · exact h u r' hr' q hq
    · rw [List.mem_singleton.1 hq, hu]
  · exact h u r hr q hq

lemma Filed.foldl_enqueue (h : s.Filed) (ps : List Packet) :
    (ps.foldl TrackSet.enqueue s).Filed := by
  induction ps generalizing s with
  | nil => exact h
  | cons p ps ih => exact ih (h.enqueue p)

lemma Filed.create (h : s.Filed) (u : TrackId) (tb : Timebase) : (s.create u tb).Filed := by
  intro t q hq p hp
  rw [queue?_create] at hq
  split at hq
  · cases hq
    cases hp
  · exact h t q hq p hp

lemma Filed.remove (h : s.Filed) (u : TrackId) : (s.remove u).Filed := by
  intro t q hq p hp
  rw [queue?_remove] at hq
  split at hq
  · cases hq
  · exact h t q hq p hp

namespace Releases

variable {ps : List Packet}

lemma filed (h : Releases s ps s') (hf : s.Filed) : s'.Filed := by
  induction h with
  | nil s => exact hf
  | cons hpop _ ih =>
    obtain ⟨t, _, _, _, _, rfl⟩ := exists_of_pop? hpop
    exact ih (hf.dequeue t)

/-- A release makes no tracks. -/
lemma queue?_eq_none (h : Releases s ps s') (ht : s.queue? t = none) : s'.queue? t = none := by
  induction h with
  | nil s => exact ht
  | cons hpop _ ih =>
    obtain ⟨u, _, _, _, _, rfl⟩ := exists_of_pop? hpop
    refine ih ?_
    rw [queue?_dequeue, ht]
    exact ite_self none

/-- **On every track the first packets are released, in the order of the queue**, and the others
still wait.

**Proof sketch.** Induction on the release. A packet is taken from the front of the queue of its
track (`exists_of_pop?`), and the other queues stay. -/
lemma queue?_eq_some {q : TrackQueue} (h : Releases s ps s') (hf : s.Filed)
    (hq : s.queue? t = some q) : ∃ rest, s'.queue? t = some { q with packets := rest } ∧
      q.packets = ps.filter (·.track = t) ++ rest := by
  induction h generalizing q with
  | nil s => exact ⟨q.packets, hq, rfl⟩
  | @cons s s₁ s' p ps hpop _ ih =>
    obtain ⟨u, r, tl, hr, hp, rfl⟩ := exists_of_pop? hpop
    -- the packet is taken from the queue of its own track, since every packet is filed there
    have hpu : p.track = u := hf u r hr p (hp ▸ .head _)
    by_cases ht : t = u
    · subst ht
      obtain rfl : r = q := Option.some.inj (hr.symm.trans hq)
      obtain ⟨rest, hrest, heq⟩ := ih (hf.dequeue t) (q := r.tail) (by simp [queue?_dequeue, hr])
      refine ⟨rest, hrest, ?_⟩
      rw [TrackQueue.tail_packets, hp, List.tail_cons] at heq
      simp [hp, hpu, heq]
    · obtain ⟨rest, hrest, heq⟩ := ih (hf.dequeue u) (q := q) (by simp [queue?_dequeue, hq, ht])
      refine ⟨rest, hrest, ?_⟩
      simp [hpu, Ne.symm ht, heq]

end Releases

/-! ## Draining -/

/-- The number of waiting packets, queue by queue. -/
lemma queued_eq_sum (s : TrackSet) :
    s.queued = (s.tracks.entries.map fun e => e.2.packets.length).sum := by
  simp [queued, Table.values, List.length_flatMap, Function.comp_def]

/-- A pop leaves fewer packets. -/
lemma queued_lt_of_pop? (h : s.pop? = some (p, s')) : s'.queued < s.queued := by
  obtain ⟨t, q, rest, hq, hp, rfl⟩ := exists_of_pop? h
  rw [queued_eq_sum, queued_eq_sum]
  simp only [dequeue, Table.modify, Table.map, List.map_map, Function.comp_def]
  refine List.sum_lt_sum _ _ (fun e _ => ?_) ⟨(t, q), Table.get?_eq_some_iff.1 hq, ?_⟩
  · split <;> simp
  · simp [hp]

/-- A drain with a budget releases packet after packet. -/
lemma releases_drainUpTo (n : Nat) (s : TrackSet) :
    Releases s (drainUpTo n s).1 (drainUpTo n s).2 := by
  induction n generalizing s with
  | zero => exact .nil s
  | succ n ih =>
    unfold drainUpTo
    cases h : s.pop? with
    | none => exact .nil s
    | some r => exact .cons h (ih r.2)

/-- A drain with a budget for all waiting packets leaves nothing that can be released. -/
lemma pop?_drainUpTo {n : Nat} (hn : s.queued ≤ n) : (drainUpTo n s).2.pop? = none := by
  induction n generalizing s with
  | zero =>
    cases h : s.pop? with
    | none => exact h
    | some r => exact absurd (queued_lt_of_pop? h) (by omega)
  | succ n ih =>
    unfold drainUpTo
    cases h : s.pop? with
    | none => exact h
    | some r =>
      have hlt := queued_lt_of_pop? h
      exact ih (by omega)

/-- A drain releases packet after packet. -/
lemma releases_drain (s : TrackSet) : Releases s s.drain.1 s.drain.2 :=
  releases_drainUpTo _ s

/-- A drain leaves nothing that can be released. -/
lemma pop?_drain (s : TrackSet) : s.drain.2.pop? = none :=
  pop?_drainUpTo le_rfl

end TrackSet

end LiveMedia
