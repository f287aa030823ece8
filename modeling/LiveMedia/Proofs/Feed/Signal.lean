import LiveMedia.Feed.Signal
import Mathlib.Tactic.Lemma

set_option autoImplicit false

/-!
# A signal with one waiter

With a single waiter a signal is in one of three states: nobody waits, the waiter is asleep, or it
has been woken and has not gone on yet. Notices wake the waiter, and nothing puts it to sleep again
but its own registration.

## Main definitions

* `LiveMedia.Signal.Vacant`, `LiveMedia.Signal.Asleep`, `LiveMedia.Signal.Awake` — the three states.

## Main results

* `LiveMedia.Signal.Vacant.register` — a waiter that registers sleeps, or takes the permit.
* `LiveMedia.Signal.Registered.notifyOne`, `LiveMedia.Signal.Registered.notifyAll` — notices wake
  it.
* `LiveMedia.Signal.Registered.cancel` — a waiter that gives up is gone.
-/

namespace LiveMedia.Signal

variable {s : Signal} {w : WaiterId}

/-- Nobody waits. -/
def Vacant (s : Signal) : Prop :=
  s.waiting = [] ∧ s.woken = []

/-- Only `w` waits, and it has not been woken. -/
def Asleep (s : Signal) (w : WaiterId) : Prop :=
  s.waiting = [w] ∧ s.woken = []

/-- Only `w` waits, and it has been woken. -/
def Awake (s : Signal) (w : WaiterId) : Prop :=
  s.waiting = [] ∧ ∃ wake, s.woken = [(w, wake)]

/-- Only `w` waits, woken or not. -/
def Registered (s : Signal) (w : WaiterId) : Prop :=
  s.Asleep w ∨ s.Awake w

/-! ## Telling the states apart -/

lemma Awake.isWoken (h : s.Awake w) : s.isWoken w = true := by
  obtain ⟨-, wake, hwoken⟩ := h
  simp [Signal.isWoken, hwoken]

lemma Asleep.isWoken (h : s.Asleep w) : s.isWoken w = false := by
  simp [Signal.isWoken, h.2]

/-- A waiter is not asleep and awake at once. -/
lemma Awake.not_asleep (h : s.Awake w) : ¬s.Asleep w := by
  intro hasleep
  have hwoken := h.isWoken
  rw [hasleep.isWoken] at hwoken
  cases hwoken

/-- A waiter that has not been woken is asleep. -/
lemma Registered.asleep (h : s.Registered w) (hwoken : s.isWoken w = false) : s.Asleep w := by
  rcases h with hasleep | hawake
  · exact hasleep
  · rw [hawake.isWoken] at hwoken
    cases hwoken

/-! ## What the waiter does -/

/-- A waiter that registers takes the permit and is awake, or falls asleep. -/
lemma Vacant.register (h : s.Vacant) (w : WaiterId) : (s.register w).Registered w := by
  obtain ⟨hwaiting, hwoken⟩ := h
  unfold Signal.register
  split
  · right
    exact ⟨hwaiting, .spent, by simp [hwoken]⟩
  · left
    exact ⟨by simp [hwaiting], hwoken⟩

lemma Registered.forget (h : s.Registered w) : (s.forget w).Vacant := by
  rcases h with ⟨hwaiting, hwoken⟩ | ⟨hwaiting, wake, hwoken⟩
  · simp [Vacant, Signal.forget, hwaiting, hwoken]
  · simp [Vacant, Signal.forget, hwaiting, hwoken]

/-! ## Notices -/

/-- A notice for one waiter is kept as a permit while nobody waits. -/
lemma Vacant.notifyOne (h : s.Vacant) : s.notifyOne.Vacant := by
  obtain ⟨hwaiting, hwoken⟩ := h
  simp [Vacant, Signal.notifyOne, hwaiting, hwoken]

lemma Vacant.notifyAll (h : s.Vacant) : s.notifyAll.Vacant := by
  obtain ⟨hwaiting, hwoken⟩ := h
  simp [Vacant, Signal.notifyAll, hwaiting, hwoken]

/-- A notice for one waiter wakes the only one. -/
lemma Registered.notifyOne (h : s.Registered w) : s.notifyOne.Awake w := by
  rcases h with ⟨hwaiting, hwoken⟩ | ⟨hwaiting, wake, hwoken⟩
  · simp [Awake, Signal.notifyOne, hwaiting, hwoken]
  · simp [Awake, Signal.notifyOne, hwaiting, hwoken]

/-- A notice for all waiters wakes the only one. -/
lemma Registered.notifyAll (h : s.Registered w) : s.notifyAll.Awake w := by
  rcases h with ⟨hwaiting, hwoken⟩ | ⟨hwaiting, wake, hwoken⟩
  · simp [Awake, Signal.notifyAll, hwaiting, hwoken]
  · simp [Awake, Signal.notifyAll, hwaiting, hwoken]

/-- A waiter that gives up is gone, even if it hands a notice on. -/
lemma Registered.cancel (h : s.Registered w) : (s.cancel w).Vacant := by
  unfold Signal.cancel
  split
  · exact h.forget.notifyOne
  · exact h.forget

end LiveMedia.Signal
