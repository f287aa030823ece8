set_option autoImplicit false

/-!
# Signals

A signal wakes consumers. A notification for one waiter wakes the one that waits longest, or is
kept as a permit if nobody waits; there is never more than one permit. A waiter that is woken by
such a notification and gives up passes it on.

## Main definitions

* `LiveMedia.Signal` — the permit and the waiters.
* `LiveMedia.Signal.notifyOne`, `LiveMedia.Signal.notifyAll` — the notifications.
* `LiveMedia.Signal.register`, `LiveMedia.Signal.resume`, `LiveMedia.Signal.cancel` — what a
  waiter does.
-/

namespace LiveMedia

/-- The number of a waiter. -/
abbrev WaiterId := Nat

/-- How a waiter was woken. -/
inductive Wake where
  /-- By a notification for one; it passes on if the waiter gives up. -/
  | single
  /-- By a permit it took, or by a notification for all. -/
  | spent
  deriving DecidableEq, Repr

/-- The permit and the waiters of a signal. -/
structure Signal where
  /-- A notification that came while nobody waited. -/
  permit : Bool := false
  /-- Those that wait, the longest wait first. -/
  waiting : List WaiterId := []
  /-- Those that are woken and have not gone on. -/
  woken : List (WaiterId × Wake) := []
  deriving DecidableEq, Repr

namespace Signal

/-- Wakes the waiter that waits longest, or stores a permit. -/
def notifyOne (s : Signal) : Signal :=
  match s.waiting with
  | [] => { s with permit := true }
  | w :: rest => { s with waiting := rest, woken := s.woken ++ [(w, .single)] }

/-- Wakes all waiters and stores nothing. -/
def notifyAll (s : Signal) : Signal :=
  { s with waiting := [], woken := s.woken ++ s.waiting.map fun w => (w, .spent) }

/-- Takes the permit, or starts to wait. -/
def register (s : Signal) (w : WaiterId) : Signal :=
  if s.permit then
    { s with permit := false, woken := s.woken ++ [(w, .spent)] }
  else
    { s with waiting := s.waiting ++ [w] }

/-- The waiter is woken. -/
def isWoken (s : Signal) (w : WaiterId) : Bool :=
  s.woken.any fun e => e.1 == w

/-- The signal without a waiter. -/
def forget (s : Signal) (w : WaiterId) : Signal :=
  { s with
    waiting := s.waiting.filter (· != w)
    woken := s.woken.filter fun e => e.1 != w }

/-- A woken waiter goes on. -/
def resume (s : Signal) (w : WaiterId) : Signal :=
  s.forget w

/-- A waiter gives up; a notification meant for it alone passes on. -/
def cancel (s : Signal) (w : WaiterId) : Signal :=
  if s.woken.contains (w, .single) then (s.forget w).notifyOne else s.forget w

/-- The number of wake-ups that are not used up. -/
def pending (s : Signal) : Nat :=
  s.permit.toNat + s.woken.length

@[simp]
theorem pending_register (s : Signal) (w : WaiterId) : (s.register w).pending = s.pending := by
  unfold register pending
  split
  · rename_i h
    simp [h, Nat.add_comm]
  · rfl

theorem pending_resume_lt {s : Signal} {w : WaiterId} (h : s.isWoken w) :
    (s.resume w).pending < s.pending := by
  obtain ⟨e, he, hw⟩ := List.any_eq_true.1 h
  have hlt : (s.woken.filter fun e => e.1 != w).length < s.woken.length :=
    List.length_filter_lt_length_iff_exists.2 ⟨e, he, by simp [beq_iff_eq.1 hw]⟩
  simp only [pending, resume, forget]
  omega

end Signal

end LiveMedia
