import LiveMedia.Proofs.Timebase
import LiveMedia.Proofs.Track.Order

set_option autoImplicit false

/-!
# The heads of a track

While packets are queued on a track and taken from it, those that wait are the last of all that
have come. So if their timestamps do not go back, the time at the head does not either.

## Main definitions

* `LiveMedia.TrackQueue.Action`, `LiveMedia.TrackQueue.run` — packets queued and taken, one after
  another.
* `LiveMedia.TrackQueue.Steady` — the timestamps of packets do not go back, and all can be
  converted.

## Main results

* `LiveMedia.TrackQueue.packets_run_suffix`, `LiveMedia.TrackSet.exists_queue?_run` — what waits
  after a run of a queue, and on a track of a set.
* `LiveMedia.TrackQueue.usec_exact_in_order` — timestamps in microseconds, and the times at the
  head.
-/

namespace LiveMedia

/-! ## Queues -/

namespace TrackQueue

/-- What is done to a queue. -/
inductive Action where
  /-- A packet is queued. -/
  | push (p : Packet)
  /-- The first packet is taken, if there is one. -/
  | pop
  deriving DecidableEq, Repr

/-- The queue after an action. -/
def act (q : TrackQueue) : Action → TrackQueue
  | .push p => q.push p
  | .pop => q.pop?.elim q Prod.snd

/-- The queue after one action after another. -/
def run (q : TrackQueue) (as : List Action) : TrackQueue :=
  as.foldl act q

/-- The packet that an action queues. -/
def Action.pushed? : Action → Option Packet
  | .push p => some p
  | .pop => none

/-- The packets that actions queue. -/
def pushes (as : List Action) : List Packet :=
  as.filterMap Action.pushed?

variable {q r : TrackQueue} {p : Packet} {u v : Int}

lemma act_pop (q : TrackQueue) : q.act .pop = q.tail := by
  obtain ⟨timebase, packets⟩ := q
  cases packets <;> rfl

/-- After an action, what waits and is still to come is the end of what it was. -/
lemma packets_act_suffix (q : TrackQueue) (a : Action) (as : List Action) :
    (q.act a).packets ++ pushes as <:+ q.packets ++ pushes (a :: as) := by
  cases a with
  | push p => exact ⟨[], List.append_assoc q.packets [p] (pushes as)⟩
  | pop =>
    rw [act_pop, tail_packets]
    obtain ⟨taken, htaken⟩ := List.tail_suffix q.packets
    refine ⟨taken, ?_⟩
    rw [← List.append_assoc, htaken]
    rfl

/-- **What waits after a run is the end of all that has come.** -/
lemma packets_run_suffix (q : TrackQueue) (as : List Action) :
    (q.run as).packets <:+ q.packets ++ pushes as := by
  induction as generalizing q with
  | nil => exact ⟨[], (List.append_nil q.packets).symm⟩
  | cons a as ih => exact (ih (q.act a)).trans (q.packets_act_suffix a as)

lemma timebase_run (q : TrackQueue) (as : List Action) : (q.run as).timebase = q.timebase := by
  induction as generalizing q with
  | nil => rfl
  | cons a as ih =>
    refine (ih (q.act a)).trans ?_
    cases a with
    | push p => rfl
    | pop => rw [act_pop]; rfl

/-! ## Heads -/

/-- The timestamps of packets do not go back, and all of them can be converted. -/
def Steady (tb : Timebase) (ps : List Packet) : Prop :=
  (ps.map Packet.pts).Pairwise (· ≤ ·) ∧ ∀ p ∈ ps, (tb.toUsec p.pts).isSome = true

/-- Packets with steady timestamps are in order of their times. -/
lemma Steady.pairwise_orderTime {ps : List Packet} (h : Steady q.timebase ps)
    (hnum : 0 < q.timebase.num) (hden : 0 < q.timebase.den) :
    (ps.map q.orderTime).Pairwise (· ≤ ·) := by
  obtain ⟨horder, hconverts⟩ := h
  rw [List.pairwise_map] at horder ⊢
  refine horder.imp_of_mem fun {p p'} hp hp' hle => ?_
  obtain ⟨w, hw⟩ := Option.isSome_iff_exists.1 (hconverts p hp)
  obtain ⟨w', hw'⟩ := Option.isSome_iff_exists.1 (hconverts p' hp')
  rw [orderTime, orderTime, hw, hw']
  exact Timebase.toUsec_le_toUsec hnum hden hle hw hw'

lemma nextUsec_eq_some_iff :
    q.nextUsec = some u ↔ ∃ p rest, q.packets = p :: rest ∧ q.orderTime p = u := by
  rw [nextUsec, Option.map_eq_some_iff, head?]
  constructor
  · rintro ⟨p, hp, hu⟩
    obtain ⟨rest, hrest⟩ := List.head?_eq_some_iff.1 hp
    exact ⟨p, rest, hrest, hu⟩
  · rintro ⟨p, rest, hp, hu⟩
    exact ⟨p, by rw [hp, List.head?_cons], hu⟩

/-- Let `q` be a queue, `q₁` what it is once the packets `first` have come, and `q₂` what that is
once the packets `later` have come. If all timestamps are steady, the time at the head of `q₂` is
not before that at the head of `q₁`.

**Proof sketch.** The head of `q₁` is the first of all that wait there or come later, and what waits
in `q₂` is among these. -/
lemma nextUsec_le_nextUsec {q₁ q₂ : TrackQueue} {first later : List Packet}
    (h₁ : q₁.packets <:+ q.packets ++ first) (h₂ : q₂.packets <:+ q₁.packets ++ later)
    (htb₁ : q₁.timebase = q.timebase) (htb₂ : q₂.timebase = q₁.timebase)
    (hnum : 0 < q.timebase.num) (hden : 0 < q.timebase.den)
    (hsteady : Steady q.timebase (q.packets ++ (first ++ later)))
    (hu : q₁.nextUsec = some u) (hv : q₂.nextUsec = some v) : u ≤ v := by
  obtain ⟨p, rest, hp, rfl⟩ := nextUsec_eq_some_iff.1 hu
  obtain ⟨g, tail, hg, rfl⟩ := nextUsec_eq_some_iff.1 hv
  have hsuffix : q₁.packets ++ later <:+ q.packets ++ (first ++ later) := by
    obtain ⟨taken, htaken⟩ := h₁
    refine ⟨taken, ?_⟩
    rw [← List.append_assoc, htaken, List.append_assoc]
  have hordered : ((q₁.packets ++ later).map q.orderTime).Pairwise (· ≤ ·) :=
    (hsteady.pairwise_orderTime hnum hden).sublist (hsuffix.map _).sublist
  have hmem : g ∈ p :: (rest ++ later) := by
    rw [← List.cons_append, ← hp]
    exact h₂.subset (hg ▸ .head _)
  rw [hp, List.cons_append, List.map_cons, List.pairwise_cons] at hordered
  rw [orderTime_congr (htb₂.trans htb₁), orderTime_congr htb₁]
  rcases List.mem_cons.1 hmem with rfl | hmem
  · exact le_rfl
  · exact hordered.1 _ (List.mem_map_of_mem hmem)

end TrackQueue

/-! ## Tracks of a set -/

namespace TrackSet

variable {s : TrackSet} {t : TrackId} {q : TrackQueue}

/-- Every packet of declared tracks is in the queue of its track. -/
lemma filed_declare (tracks : List (TrackId × Timebase)) : (declare tracks).Filed := by
  intro t q hq p hp
  rw [packets_of_declare hq] at hp
  cases hp

lemma filed_run (hf : s.Filed) (as : List Action) : (s.run as).2.Filed :=
  (releases_run s as).filed (hf.foldl_enqueue _)

/-- **What waits on a track after a run of the set is the end of all that has come there**, whatever
has been released meanwhile. -/
lemma exists_queue?_run (hf : s.Filed) (hq : s.queue? t = some q) (as : List Action) :
    ∃ r, (s.run as).2.queue? t = some r ∧ r.timebase = q.timebase ∧
      r.packets <:+ q.packets ++ pushedOn t as := by
  have hall : ((pushes as).foldl enqueue s).queue? t =
      some { q with packets := q.packets ++ pushedOn t as } := by
    rw [queue?_foldl_enqueue, hq]
    rfl
  obtain ⟨rest, hrest, heq⟩ := (releases_run s as).queue?_eq_some (hf.foldl_enqueue _) hall
  exact ⟨_, hrest, rfl, _, heq.symm⟩

end TrackSet

/-! ## Timestamps in microseconds -/

namespace TrackQueue

open TrackSet (declare pushedOn)

/-- **Timestamps are converted exactly and in order, and so the heads of a track are in order.** On
machine words, in every build, a timestamp is converted without an overflow. There is no result just
if the denominator is zero or 64 bits do not hold the quotient, truncated towards zero; else this
quotient is the result. In a timebase with positive terms an earlier timestamp has no later result,
and between two timestamps that can be converted every one can. So if the timestamps of a track do
not go back and can be converted, the time at the head of its queue does not go back either, however
packets are queued and taken, alone or on a track of a set whose packets are released in order of
all tracks.

**Proof sketch.** The conversion on words is that on integers (`Timebase.toUsecOn_eq`), and division
towards zero by a positive number keeps the order (`Timebase.toUsec_le_toUsec`). What waits after a
run is the end of all packets that have come (`packets_run_suffix`, `TrackSet.exists_queue?_run`),
so that a later head is an earlier one or a packet behind it (`nextUsec_le_nextUsec`). -/
theorem usec_exact_in_order :
    (∀ (build : Bits.Build) (num den : Int32) (ts : Int64), ∃ r : Option Int64,
      Timebase.toUsecOn build num den ts = .ok r ∧
      r.map Int64.toInt = (Timebase.mk num.toInt den.toInt).toUsec ts.toInt ∧
      (r = none ↔ den = 0 ∨ ∃ k, IsTruncated (ts.toInt * 1000000 * num.toInt) den.toInt k ∧
        (k < minInt64 ∨ maxInt64 < k)) ∧
      ∀ v : Int64, r = some v ↔ IsTruncated (ts.toInt * 1000000 * num.toInt) den.toInt v.toInt) ∧
    ∀ tb : Timebase, 0 < tb.num → 0 < tb.den →
      (∀ ts₁ ts₂ u₁ u₂, ts₁ ≤ ts₂ → tb.toUsec ts₁ = some u₁ → tb.toUsec ts₂ = some u₂ →
        u₁ ≤ u₂ ∧ ∀ ts, ts₁ ≤ ts → ts ≤ ts₂ → (tb.toUsec ts).isSome = true) ∧
      (∀ (q : TrackQueue) (as bs : List Action) (u v : Int), q.timebase = tb →
        Steady tb (q.packets ++ pushes (as ++ bs)) →
        (q.run as).nextUsec = some u → (q.run (as ++ bs)).nextUsec = some v → u ≤ v) ∧
      ∀ (tracks : List (TrackId × Timebase)) (t : TrackId) (q : TrackQueue)
        (as bs : List TrackSet.Action) (u v : Int),
        (declare tracks).queue? t = some q → q.timebase = tb → Steady tb (pushedOn t (as ++ bs)) →
        (((declare tracks).run as).2.queue? t).bind nextUsec = some u →
        (((declare tracks).run (as ++ bs)).2.queue? t).bind nextUsec = some v → u ≤ v := by
  refine ⟨fun build num den ts => ?_, fun tb hnum hden => ⟨?_, ?_, ?_⟩⟩
  · exact ⟨_, Timebase.toUsecOn_eq build num den ts, Timebase.map_toInt_map_ofInt _ _,
      Timebase.map_ofInt_eq_none_iff, fun _ => Timebase.map_ofInt_eq_some_iff⟩
  · intro ts₁ ts₂ u₁ u₂ hle h₁ h₂
    refine ⟨Timebase.toUsec_le_toUsec hnum hden hle h₁ h₂, fun ts hle₁ hle₂ => ?_⟩
    exact Timebase.isSome_toUsec_of_between hnum hden hle₁ hle₂ h₁ h₂
  · rintro q as bs u v rfl hsteady hu hv
    rw [pushes, List.filterMap_append] at hsteady
    rw [run, List.foldl_append] at hv
    exact nextUsec_le_nextUsec (q.packets_run_suffix as) ((q.run as).packets_run_suffix bs)
      (q.timebase_run as) ((q.run as).timebase_run bs) hnum hden hsteady hu hv
  · rintro tracks t q as bs u v hq rfl hsteady hu hv
    have hempty : q.packets = [] := TrackSet.packets_of_declare hq
    obtain ⟨q₁, hq₁, htb₁, hsuffix₁⟩ :=
      TrackSet.exists_queue?_run (TrackSet.filed_declare tracks) hq as
    obtain ⟨q₂, hq₂, htb₂, hsuffix₂⟩ :=
      TrackSet.exists_queue?_run (TrackSet.filed_run (TrackSet.filed_declare tracks) as) hq₁ bs
    rw [TrackSet.run_append] at hv
    rw [hq₁] at hu
    rw [hq₂] at hv
    rw [TrackSet.pushedOn_append] at hsteady
    refine nextUsec_le_nextUsec hsuffix₁ hsuffix₂ htb₁ htb₂ hnum hden ?_ hu hv
    rwa [hempty]

/-- A track that begins before zero, where quotients are truncated upwards: its queue alone, and
beside another track. -/
theorem usec_exact_in_order_across_zero :
    let tb : Timebase := ⟨1, 90000⟩
    let q : TrackQueue := { timebase := tb }
    let as : List Action := [.push (.blank 1 (-100)), .push (.blank 1 (-50)), .pop]
    let bs : List Action := [.push (.blank 1 7), .pop, .push (.blank 1 90)]
    let tracks : List (TrackId × Timebase) := [(1, tb), (2, .millis)]
    let cs : List TrackSet.Action :=
      [.push (.blank 1 (-100)), .push (.blank 2 0), .push (.blank 1 (-50)), .pop]
    let ds : List TrackSet.Action := [.push (.blank 1 7), .drain]
    (tb.toUsec (-100) = some (-1111) ∧ tb.toUsec 90 = some 1000 ∧
      ∀ ts, -100 ≤ ts → ts ≤ 90 → (tb.toUsec ts).isSome = true) ∧
    (Steady tb (q.packets ++ pushes (as ++ bs)) ∧ (q.run as).nextUsec = some (-555) ∧
      (q.run (as ++ bs)).nextUsec = some 77 ∧ (-555 : Int) ≤ 77) ∧
    Steady tb (pushedOn 1 (cs ++ ds)) ∧
      (((declare tracks).run cs).2.queue? 1).bind nextUsec = some (-555) ∧
      (((declare tracks).run (cs ++ ds)).2.queue? 1).bind nextUsec = some 77 ∧ (-555 : Int) ≤ 77 := by
  intro tb q as bs tracks cs ds
  obtain ⟨-, h⟩ := usec_exact_in_order
  obtain ⟨hconvert, hqueue, hset⟩ := h tb (by decide) (by decide)
  have hfirst : tb.toUsec (-100) = some (-1111) := by decide
  have hlast : tb.toUsec 90 = some 1000 := by decide
  have hsteady : Steady tb (q.packets ++ pushes (as ++ bs)) := ⟨by decide, by decide⟩
  have hhead : (q.run as).nextUsec = some (-555) := by decide
  have hhead' : (q.run (as ++ bs)).nextUsec = some 77 := by decide
  have hsteadyOn : Steady tb (pushedOn 1 (cs ++ ds)) := ⟨by decide, by decide⟩
  have hheadOn : (((declare tracks).run cs).2.queue? 1).bind nextUsec = some (-555) := by decide
  have hheadOn' : (((declare tracks).run (cs ++ ds)).2.queue? 1).bind nextUsec = some 77 := by decide
  refine ⟨⟨hfirst, hlast, (hconvert (-100) 90 _ _ (by decide) hfirst hlast).2⟩,
    ⟨hsteady, hhead, hhead', hqueue q as bs _ _ rfl hsteady hhead hhead'⟩, hsteadyOn, hheadOn,
    hheadOn', ?_⟩
  exact hset tracks 1 { timebase := tb } cs ds _ _ (by decide) rfl hsteadyOn hheadOn hheadOn'

end TrackQueue

end LiveMedia
