import LiveMedia.Feed.Basic

set_option autoImplicit false

/-!
# Consumers

A consumer that wants the next packet announces that it waits before it looks, so that a notice
given in between is not lost. It goes from step to step until it has a packet, finds the feed
closed and exhausted, or has to wait.

## Main definitions

* `LiveMedia.Feed.Phase` — where a consumer is.
* `LiveMedia.Feed.step` — the next step of a consumer.
* `LiveMedia.Feed.advance` — all steps up to an arrival.
-/

namespace LiveMedia.Feed

/-- Where a consumer is in waiting for a packet. -/
inductive Phase where
  /-- About to announce that it waits. -/
  | register
  /-- Announced, and about to look for a packet. -/
  | look
  /-- There was no packet; about to see whether the feed is closed. -/
  | check
  /-- There was no packet and the feed was open; it goes on once it is woken. -/
  | wait
  deriving DecidableEq, Repr

/-- What a step leads to. -/
inductive Outcome where
  | next (phase : Phase)
  | packet (p : Packet)
  /-- The feed is closed and releases nothing. -/
  | ended
  | blocked
  deriving DecidableEq, Repr

/-- The feed once a waiter has given up. -/
def cancel (f : Feed) (w : WaiterId) : Feed :=
  { f with signal := f.signal.cancel w }

/-- The next step of the consumer `w`. -/
def step (f : Feed) (w : WaiterId) : Phase → Feed × Outcome
  | .register => ({ f with signal := f.signal.register w }, .next .look)
  | .look =>
    match f.pop? with
    | some (p, f) => (f.cancel w, .packet p)
    | none => (f, .next .check)
  | .check => if f.closed then (f.cancel w, .ended) else (f, .next .wait)
  | .wait =>
    if f.signal.isWoken w then
      ({ f with signal := f.signal.resume w }, .next .register)
    else
      (f, .blocked)

/-- How many steps a phase is away from waiting. -/
def Phase.rank : Phase → Nat
  | register => 3
  | look => 2
  | check => 1
  | wait => 0

/-- The number of steps that a consumer can take before it waits. -/
def stepsLeft (f : Feed) (phase : Phase) : Nat :=
  4 * f.signal.pending + phase.rank

theorem stepsLeft_lt_of_step {f g : Feed} {w : WaiterId} {phase next : Phase}
    (h : f.step w phase = (g, .next next)) : g.stepsLeft next < f.stepsLeft phase := by
  cases phase with
  | register =>
    simp only [step, Prod.mk.injEq, Outcome.next.injEq] at h
    obtain ⟨rfl, rfl⟩ := h
    simp [stepsLeft, Phase.rank]
  | look =>
    simp only [step] at h
    split at h
    · simp at h
    · simp only [Prod.mk.injEq, Outcome.next.injEq] at h
      obtain ⟨rfl, rfl⟩ := h
      simp [stepsLeft, Phase.rank]
  | check =>
    simp only [step] at h
    split at h
    · simp at h
    · simp only [Prod.mk.injEq, Outcome.next.injEq] at h
      obtain ⟨rfl, rfl⟩ := h
      simp [stepsLeft, Phase.rank]
  | wait =>
    simp only [step] at h
    split at h
    · rename_i hw
      simp only [Prod.mk.injEq, Outcome.next.injEq] at h
      obtain ⟨rfl, rfl⟩ := h
      have := Signal.pending_resume_lt hw
      simp only [stepsLeft, Phase.rank]
      omega
    · simp at h

/-- What a consumer arrives at. -/
inductive Arrival where
  | packet (p : Packet)
  /-- The feed is closed and releases nothing. -/
  | ended
  | waiting
  deriving DecidableEq, Repr

/-- Lets the consumer `w` go on until it has a packet, finds the end, or waits. -/
def advance (f : Feed) (w : WaiterId) (phase : Phase) : Feed × Arrival :=
  match _h : f.step w phase with
  | (g, .next phase) => advance g w phase
  | (g, .packet p) => (g, .packet p)
  | (g, .ended) => (g, .ended)
  | (g, .blocked) => (g, .waiting)
termination_by f.stepsLeft phase
decreasing_by exact stepsLeft_lt_of_step ‹_›

/-- A number for a new waiter. -/
def newWaiter (f : Feed) : WaiterId × Feed :=
  (f.nextWaiter, { f with nextWaiter := f.nextWaiter + 1 })

end LiveMedia.Feed
