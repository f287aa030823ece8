import LiveMedia.Feed.Audience
import LiveMedia.Proofs.Track.Run

set_option autoImplicit false

/-!
# What consumers take from a feed

Whatever a consumer does, it takes packets only from the front of the queues, as they are released,
and changes nothing else of the tracks.

## Main definitions

* `LiveMedia.Feed.Outcome.released`, `LiveMedia.Feed.Arrival.released` — the packet that a consumer
  gets, if any.

## Main results

* `LiveMedia.Feed.releases_step`, `LiveMedia.Feed.releases_advance` — one step of a consumer, and
  all steps up to an arrival.
* `LiveMedia.Audience.releases_settle` — all consumers in the background.
-/

namespace LiveMedia

open TrackSet (Releases)

namespace Feed

/-- The packet that a step ends with. -/
def Outcome.released : Outcome → List Packet
  | .packet p => [p]
  | .next _ => []
  | .ended => []
  | .blocked => []

/-- The packet that a consumer arrives at. -/
def Arrival.released : Arrival → List Packet
  | .packet p => [p]
  | .ended => []
  | .waiting => []

variable {f g : Feed} {p : Packet}

/-- A feed releases what its track set releases. -/
lemma releases_of_pop? (h : f.pop? = some (p, g)) : Releases f.tracks [p] g.tracks := by
  obtain ⟨r, hr, heq⟩ := Option.map_eq_some_iff.1 h
  cases heq
  exact .single hr

lemma releases_drain (f : Feed) : Releases f.tracks f.drain.1 f.drain.2.tracks :=
  TrackSet.releases_drain f.tracks

/-- One step of a consumer takes at most the packet that is released next. -/
lemma releases_step (f : Feed) (w : WaiterId) (phase : Phase) :
    Releases f.tracks (f.step w phase).2.released (f.step w phase).1.tracks := by
  cases phase with
  | register => exact .nil _
  | look =>
    simp only [step]
    split
    · rename_i p g h
      show Releases f.tracks [p] g.tracks
      exact releases_of_pop? h
    · exact .nil _
  | check =>
    simp only [step]
    split <;> exact .nil _
  | wait =>
    simp only [step]
    split <;> exact .nil _

/-- A consumer that goes on until it arrives takes at most the packet that is released next.

**Proof sketch.** Induction on the steps: every step but the last one takes nothing. -/
lemma releases_advance (f : Feed) (w : WaiterId) (phase : Phase) :
    Releases f.tracks (f.advance w phase).2.released (f.advance w phase).1.tracks := by
  fun_induction advance f w phase with
  | case1 f phase g next h ih =>
    have hstep := releases_step f w phase
    rw [h] at hstep
    exact hstep.append ih
  | case2 f phase g p h =>
    have hstep := releases_step f w phase
    rwa [h] at hstep
  | case3 f phase g h =>
    have hstep := releases_step f w phase
    rwa [h] at hstep
  | case4 f phase g h =>
    have hstep := releases_step f w phase
    rwa [h] at hstep

end Feed

namespace Audience

/-- A listener takes packets as they are released. -/
lemma releases_pumpUpTo (n : Nat) (f : Feed) (l : Listener) :
    Releases f.tracks (pumpUpTo n f l).received (pumpUpTo n f l).feed.tracks := by
  induction n generalizing f l with
  | zero => exact .nil _
  | succ n ih =>
    have hadv := f.releases_advance l.waiter l.phase
    unfold pumpUpTo
    split
    · rename_i g p h
      rw [h] at hadv
      exact hadv.append (ih g _)
    · rename_i g h
      rwa [h] at hadv
    · rename_i g h
      rwa [h] at hadv

/-- Listeners that go on one after another take packets as they are released. -/
lemma releases_foldl_settleOne (ls : List Listener) (f : Feed) (a : Audience) :
    ∃ ps, (ls.foldl settleOne (f, a)).2.received = a.received ++ ps ∧
      Releases f.tracks ps (ls.foldl settleOne (f, a)).1.tracks := by
  induction ls generalizing f a with
  | nil => exact ⟨[], (List.append_nil _).symm, .nil _⟩
  | cons l ls ih =>
    obtain ⟨ps, hreceived, hreleases⟩ := ih (pump f l).feed (settleOne (f, a) l).2
    refine ⟨(pump f l).received ++ ps, ?_, (releases_pumpUpTo _ f l).append hreleases⟩
    exact hreceived.trans (List.append_assoc _ _ _)

/-- The consumers in the background receive packets as they are released. -/
lemma releases_settle (a : Audience) (f : Feed) :
    ∃ ps, (a.settle f).2.received = a.received ++ ps ∧
      Releases f.tracks ps (a.settle f).1.tracks :=
  releases_foldl_settleOne a.listeners f _

end Audience

end LiveMedia
