import LiveMedia.Feed.Basic
import LiveMedia.Proofs.Track.Release

set_option autoImplicit false

/-!
# Runs of a track set

A producer queues packets and a consumer takes them while the tracks stay the same. However the
two alternate, and in whatever order the packets of different tracks arrive, the consumer gets the
same sequence, sooner or later.

## Main definitions

* `LiveMedia.TrackSet.Action` — a packet queued, a packet taken, or all that can be taken.
* `LiveMedia.TrackSet.run`, `LiveMedia.Feed.run` — action after action, and what is released.
* `LiveMedia.TrackSet.pushes`, `LiveMedia.TrackSet.pushedOn` — the packets queued in a run, on all
  tracks or on one.

## Main results

* `LiveMedia.TrackSet.releases_run` — a run releases what can be released when all its packets are
  queued beforehand.
* `LiveMedia.TrackSet.run_independent_of_interleaving` — what is released does not depend on the
  order of arrival across tracks.
-/

namespace LiveMedia

/-- A packet that carries nothing but its time, in milliseconds. -/
def Packet.blank (track : TrackId) (pts : Int) : Packet where
  track
  pts
  dts := pts
  timebase := .millis
  format := .unknown
  kind := .raw
  payload := []
  fragments := none
  keyframe := false

/-- What is done to a track set while its tracks stay the same. -/
inductive TrackSet.Action where
  /-- A packet is queued; it is refused if its track is not declared. -/
  | push (p : Packet)
  /-- The next packet is taken, if one can be released. -/
  | pop
  /-- All packets are taken that can be released. -/
  | drain
  deriving DecidableEq, Repr

namespace TrackSet

/-- The released packets and the set after an action. -/
def act (s : TrackSet) : Action → List Packet × TrackSet
  | .push p => ([], (s.push? p).getD s)
  | .pop => s.pop?.elim ([], s) fun r => ([r.1], r.2)
  | .drain => s.drain

/-- The released packets and the set after one action after another. -/
def run : TrackSet → List Action → List Packet × TrackSet
  | s, [] => ([], s)
  | s, a :: as =>
    let (ps, s) := s.act a
    let (qs, s) := s.run as
    (ps ++ qs, s)

/-- The packet that an action queues. -/
def Action.pushed? : Action → Option Packet
  | .push p => some p
  | .pop => none
  | .drain => none

/-- The packets that actions queue, on whatever track. -/
def pushes (as : List Action) : List Packet :=
  as.filterMap Action.pushed?

/-- The packets that actions queue on a track. -/
def pushedOn (t : TrackId) (as : List Action) : List Packet :=
  (pushes as).filter (·.track = t)

variable {s s' : TrackSet} {as bs : List Action}

lemma pushes_append (as bs : List Action) : pushes (as ++ bs) = pushes as ++ pushes bs :=
  List.filterMap_append

lemma pushedOn_append (t : TrackId) (as bs : List Action) :
    pushedOn t (as ++ bs) = pushedOn t as ++ pushedOn t bs := by
  simp only [pushedOn, pushes_append, List.filter_append]

lemma run_append (s : TrackSet) (as bs : List Action) :
    s.run (as ++ bs) = ((s.run as).1 ++ ((s.run as).2.run bs).1, ((s.run as).2.run bs).2) := by
  induction as generalizing s with
  | nil => rfl
  | cons a as ih =>
    simp only [List.cons_append, run, ih, List.append_assoc]

/-! ## Runs and releases -/

/-- An action releases what can be released once its packet is queued. -/
lemma releases_act (s : TrackSet) (a : Action) :
    Releases ((pushes [a]).foldl enqueue s) (s.act a).1 (s.act a).2 := by
  cases a with
  | push p =>
    simp only [act, getD_push?]
    exact .nil _
  | pop =>
    cases h : s.pop? with
    | none =>
      simp only [act, h, Option.elim_none]
      exact .nil _
    | some r =>
      simp only [act, h, Option.elim_some]
      exact .single h
  | drain => exact releases_drain s

/-- **A run releases what can be released when all its packets are queued beforehand.**

**Proof sketch.** Induction on the actions. What an action releases is released just the same when
the packets of the later actions are in the queues already, since releasing and queueing commute
(`Releases.foldl_enqueue`). -/
lemma releases_run (s : TrackSet) (as : List Action) :
    Releases ((pushes as).foldl enqueue s) (s.run as).1 (s.run as).2 := by
  induction as generalizing s with
  | nil => exact .nil s
  | cons a as ih =>
    have hfold : (pushes (a :: as)).foldl enqueue s =
        (pushes as).foldl enqueue ((pushes [a]).foldl enqueue s) := by
      rw [← List.singleton_append, pushes_append, List.foldl_append]
    -- what the first action releases does not change when the later packets are there already
    rw [hfold]
    exact ((releases_act s a).foldl_enqueue (pushes as)).append (ih (s.act a).2)

/-- Actions that queue the same packets on every declared track lead to the same queues, as long
as nothing is taken. -/
lemma foldl_enqueue_congr (h : ∀ t, s.contains t = true → pushedOn t as = pushedOn t bs) :
    (pushes as).foldl enqueue s = (pushes bs).foldl enqueue s := by
  refine ext_queue? fun t => ?_
  rw [queue?_foldl_enqueue, queue?_foldl_enqueue]
  cases hq : s.queue? t with
  | none => rfl
  | some q =>
    have ht : s.contains t = true := Table.contains_iff.2 ⟨q, hq⟩
    exact congrArg (fun ps => some { q with packets := q.packets ++ ps }) (h t ht)

end TrackSet

/-! ## Runs of a feed -/

namespace Feed

open TrackSet (Action)

/-- The released packets and the feed after an action. -/
def act (f : Feed) : Action → List Packet × Feed
  | .push p => ([], (f.push? p).getD f)
  | .pop => f.pop?.elim ([], f) fun r => ([r.1], r.2)
  | .drain => f.drain

/-- The released packets and the feed after one action after another. -/
def run : Feed → List Action → List Packet × Feed
  | f, [] => ([], f)
  | f, a :: as =>
    let (ps, f) := f.act a
    let (qs, f) := f.run as
    (ps ++ qs, f)

/-- Notices leave the tracks alone. -/
@[simp] lemma tracks_notify (f : Feed) (n : Notice) : (f.notify n).tracks = f.tracks := by
  cases n <;> rfl

@[simp] lemma tracks_complete (c : Change) : c.complete.tracks = c.feed.tracks := by
  obtain ⟨f, ns⟩ := c
  unfold Change.complete
  induction ns generalizing f with
  | nil => rfl
  | cons n ns ih => exact (ih (f.notify n)).trans (tracks_notify f n)

/-- A feed refuses the packets that its track set refuses. -/
lemma map_tracks_push? (f : Feed) (p : Packet) :
    (f.push? p).map Feed.tracks = f.tracks.push? p := by
  unfold push? pushing?
  cases f.tracks.push? p <;> simp

/-- An action on a feed does to the tracks what it does to a track set. -/
lemma act_eq (f : Feed) (a : Action) :
    ((f.act a).1, (f.act a).2.tracks) = f.tracks.act a := by
  cases a with
  | push p =>
    have h := map_tracks_push? f p
    cases hf : f.push? p <;> simp_all [act, TrackSet.act, ← h]
  | pop => cases h : f.tracks.pop? <;> simp [act, TrackSet.act, pop?, h]
  | drain => rfl

/-- A run of a feed is a run of its track set. -/
lemma run_eq (f : Feed) (as : List Action) :
    ((f.run as).1, (f.run as).2.tracks) = f.tracks.run as := by
  induction as generalizing f with
  | nil => rfl
  | cons a as ih =>
    have ha := act_eq f a
    have hr := ih (f.act a).2
    simp only [run, TrackSet.run, ← ha, ← hr]

end Feed

/-! ## Independence of the interleaving -/

namespace TrackSet

variable {s : TrackSet} {as bs : List Action}

/-- **What is released does not depend on the order of arrival across tracks.** Let two runs from
one track set queue the same packets on each declared track in the same order. Then one releases a
prefix of what the other releases; if both end when nothing can be released, they release the same
and leave the same queues, in particular if both end with a drain. The same holds of the runs of a
feed, which do to its tracks what they do to a track set. No timestamp is assumed to be in order
or to be convertible.

**Proof sketch.** Both runs release packets from one and the same set, the one with all packets of
the run queued beforehand (`releases_run`, `foldl_enqueue_congr`), and what can be released from a
set is determined by it (`Releases.comparable`, `Releases.unique`). -/
theorem run_independent_of_interleaving
    (h : ∀ t, s.contains t = true → pushedOn t as = pushedOn t bs) :
    ((s.run as).1 <+: (s.run bs).1 ∨ (s.run bs).1 <+: (s.run as).1) ∧
    ((s.run as).2.pop? = none → (s.run bs).2.pop? = none → s.run as = s.run bs) ∧
    s.run (as ++ [.drain]) = s.run (bs ++ [.drain]) ∧
    ∀ (f : Feed) (cs : List Action), f.tracks = s →
      (f.run cs).1 = (s.run cs).1 ∧ (f.run cs).2.tracks = (s.run cs).2 := by
  have same : ∀ {as bs : List Action}, (∀ t, s.contains t = true → pushedOn t as = pushedOn t bs) →
      (s.run as).2.pop? = none → (s.run bs).2.pop? = none → s.run as = s.run bs := by
    intro as bs h has hbs
    have hr := releases_run s bs
    rw [← foldl_enqueue_congr h] at hr
    obtain ⟨hp, hs⟩ := (releases_run s as).unique hr has hbs
    exact Prod.ext hp hs
  refine ⟨?_, same h, ?_, ?_⟩
  · have hr := releases_run s bs
    rw [← foldl_enqueue_congr h] at hr
    exact (releases_run s as).comparable hr
  · refine same (fun t ht => ?_) ?_ ?_
    · rw [pushedOn_append, pushedOn_append, h t ht]
    · rw [run_append]
      exact pop?_drain _
    · rw [run_append]
      exact pop?_drain _
  · rintro f cs rfl
    exact Prod.ext_iff.1 (Feed.run_eq f cs)

/-- Two tracks, one of which goes back in time, arrive in two different orders. -/
theorem run_independent_of_interleaving_two_tracks :
    let s := (({} : TrackSet).create 7 .millis).create 3 .millis
    let as : List Action := [.push (.blank 7 40), .push (.blank 7 20), .push (.blank 3 40), .pop,
      .push (.blank 3 10)]
    let bs : List Action := [.push (.blank 3 40), .drain, .push (.blank 3 10),
      .push (.blank 7 40), .drain, .push (.blank 7 20), .pop]
    (∀ t, s.contains t = true → pushedOn t as = pushedOn t bs) ∧
      s.run (as ++ [.drain]) = s.run (bs ++ [.drain]) := by
  intro s as bs
  have h : ∀ t, s.contains t = true → pushedOn t as = pushedOn t bs := by
    intro t ht
    obtain rfl | rfl : t = 3 ∨ t = 7 := by
      by_contra hne
      rw [not_or] at hne
      simp [s, contains, create, Table.contains, Table.get?_insert, hne] at ht
    · decide
    · decide
  exact ⟨h, (run_independent_of_interleaving h).2.2.1⟩

end TrackSet

end LiveMedia
