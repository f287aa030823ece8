import Mathlib.Tactic.Lemma

set_option autoImplicit false

/-!
# Outcomes of steps

A step may fail and changes a state, whether it fails or not. Its outcome from a state is its
result together with the state after it; the lemmas tell the outcome of a step from its parts.

## Main definitions

* `LiveMedia.outcome` — the result of a step and the state after it.
* `LiveMedia.Preserves` — a step keeps an invariant of the state.
* `LiveMedia.Returns`, `LiveMedia.FailsOnly` — what a step gives, and what it fails with, has a
  property.

## Main results

* `LiveMedia.outcome_bind` — one step after another.
* `LiveMedia.outcome_bind_eq_ok`, `LiveMedia.outcome_bind_eq_error_iff` — when both succeed, and
  when one of them fails.
-/

namespace LiveMedia

variable {ε σ α β : Type}

/-- The result of a step from a state, and the state after it. -/
def outcome (x : ExceptT ε (StateM σ) α) (s : σ) : Except ε α × σ :=
  (x.run.run s).run

@[simp] lemma outcome_pure (a : α) (s : σ) :
    outcome (pure a : ExceptT ε (StateM σ) α) s = (.ok a, s) := rfl

@[simp] lemma outcome_throw (e : ε) (s : σ) :
    outcome (throw e : ExceptT ε (StateM σ) α) s = (.error e, s) := rfl

@[simp] lemma outcome_get (s : σ) : outcome (get : ExceptT ε (StateM σ) σ) s = (.ok s, s) := rfl

@[simp] lemma outcome_set (s s' : σ) :
    outcome (set s' : ExceptT ε (StateM σ) PUnit) s = (.ok ⟨⟩, s') := rfl

/-- A result that is known changes no state. -/
@[simp] lemma outcome_liftM (r : Except ε α) (s : σ) :
    outcome (liftM r : ExceptT ε (StateM σ) α) s = (r, s) := rfl

/-- The second step is taken only if the first one succeeds. -/
lemma outcome_bind (x : ExceptT ε (StateM σ) α) (f : α → ExceptT ε (StateM σ) β) (s : σ) :
    outcome (x >>= f) s =
      match outcome x s with
      | (.ok a, s') => outcome (f a) s'
      | (.error e, s') => (.error e, s') := by
  show ((x.run >>= ExceptT.bindCont f).run s).run = _
  rw [StateT.run_bind]
  show (match (x.run.run s).run with | (r, s') => ((ExceptT.bindCont f r).run s').run) = _
  unfold outcome
  rcases (x.run.run s).run with ⟨_ | a, s'⟩ <;> rfl

/-- A failure is handled in the state that it has left. -/
lemma outcome_tryCatch (x : ExceptT ε (StateM σ) α) (f : ε → ExceptT ε (StateM σ) α) (s : σ) :
    outcome (tryCatch x f) s =
      match outcome x s with
      | (.ok a, s') => (.ok a, s')
      | (.error e, s') => outcome (f e) s' := by
  let handler : Except ε α → StateM σ (Except ε α)
    | .ok a => pure (.ok a)
    | .error e => (f e).run
  show ((x.run >>= handler).run s).run = _
  rw [StateT.run_bind]
  show (match (x.run.run s).run with | (r, s') => ((handler r).run s').run) = _
  unfold outcome
  rcases (x.run.run s).run with ⟨_ | a, s'⟩ <;> rfl

@[simp] lemma outcome_map (g : α → β) (x : ExceptT ε (StateM σ) α) (s : σ) :
    outcome (g <$> x) s = ((outcome x s).1.map g, (outcome x s).2) := by
  rw [← bind_pure_comp, outcome_bind]
  rcases outcome x s with ⟨_ | a, s'⟩ <;> rfl

/-- One step after another succeeds if both succeed. -/
lemma outcome_bind_eq_ok {x : ExceptT ε (StateM σ) α} {f : α → ExceptT ε (StateM σ) β} {s : σ}
    {b : β} (h : (outcome (x >>= f) s).1 = .ok b) :
    ∃ a, (outcome x s).1 = .ok a ∧ (outcome (f a) (outcome x s).2).1 = .ok b := by
  rw [outcome_bind] at h
  rcases hx : outcome x s with ⟨_ | a, s'⟩
  · rw [hx] at h
    cases h
  · rw [hx] at h
    exact ⟨a, rfl, h⟩

/-- One step after another ends well if both do. -/
lemma outcome_bind_eq_iff {x : ExceptT ε (StateM σ) α} {f : α → ExceptT ε (StateM σ) β} {s s' : σ}
    {b : β} : outcome (x >>= f) s = (.ok b, s') ↔
      ∃ a t, outcome x s = (.ok a, t) ∧ outcome (f a) t = (.ok b, s') := by
  rw [outcome_bind]
  rcases outcome x s with ⟨_ | a, t⟩
  · simp
  · constructor
    · exact fun h => ⟨a, t, rfl, h⟩
    · rintro ⟨a, t, heq, h⟩
      cases heq
      exact h

/-- One step after another fails if the first one does, or else if the second one does. -/
lemma outcome_bind_eq_error_iff {x : ExceptT ε (StateM σ) α} {f : α → ExceptT ε (StateM σ) β}
    {s : σ} {e : ε} : (outcome (x >>= f) s).1 = .error e ↔ (outcome x s).1 = .error e ∨
      ∃ a t, outcome x s = (.ok a, t) ∧ (outcome (f a) t).1 = .error e := by
  rw [outcome_bind]
  rcases outcome x s with ⟨e' | a, t⟩
  · simp
  · constructor
    · exact fun h => Or.inr ⟨a, t, rfl, h⟩
    · rintro (h | ⟨_, _, heq, h⟩)
      · cases h
      · cases heq
        exact h

/-! ## Results without a state -/

/-- A result that is known is passed on. -/
lemma ok_bind (a : α) (f : α → Except ε β) : (.ok a >>= f) = f a :=
  rfl

/-- What fails is the first result or the second one. -/
lemma error_of_bind {x : Except ε α} {f : α → Except ε β} {e : ε} (h : x >>= f = .error e) :
    x = .error e ∨ ∃ a, x = .ok a ∧ f a = .error e := by
  cases x with
  | error e' =>
    cases h
    exact Or.inl rfl
  | ok a => exact Or.inr ⟨a, rfl, h⟩

/-! ## Invariants -/

section

variable {I : σ → Prop} {x : ExceptT ε (StateM σ) α}

/-- A step keeps an invariant of the state, whether it fails or not. -/
def Preserves (I : σ → Prop) (x : ExceptT ε (StateM σ) α) : Prop :=
  ∀ s, I s → I (outcome x s).2

namespace Preserves

lemma pure (a : α) : Preserves I (Pure.pure a : ExceptT ε (StateM σ) α) :=
  fun _ h => h

lemma get : Preserves I (MonadState.get : ExceptT ε (StateM σ) σ) :=
  fun _ h => h

lemma liftM (r : Except ε α) :
    Preserves I (MonadLiftT.monadLift r : ExceptT ε (StateM σ) α) :=
  fun _ h => h

lemma modify {f : σ → σ} (hf : ∀ s, I s → I (f s)) :
    Preserves I (modify f : ExceptT ε (StateM σ) PUnit) :=
  hf

/-- One step after another. -/
lemma bind {f : α → ExceptT ε (StateM σ) β} (hx : Preserves I x) (hf : ∀ a, Preserves I (f a)) :
    Preserves I (x >>= f) := by
  intro s h
  have hs := hx s h
  rw [outcome_bind]
  rcases hx : outcome x s with ⟨e | a, t⟩ <;> rw [hx] at hs
  · exact hs
  · exact hf a t hs

lemma throw (e : ε) : Preserves I (MonadExcept.throw e : ExceptT ε (StateM σ) α) :=
  fun _ h => h

/-- A failure is handled. -/
lemma tryCatch {f : ε → ExceptT ε (StateM σ) α} (hx : Preserves I x)
    (hf : ∀ e, Preserves I (f e)) : Preserves I (MonadExcept.tryCatch x f) := by
  intro s h
  have hs := hx s h
  rw [outcome_tryCatch]
  rcases hx : outcome x s with ⟨e | a, t⟩ <;> rw [hx] at hs
  · exact hf e t hs
  · exact hs

lemma map (f : α → β) (hx : Preserves I x) : Preserves I (f <$> x) := by
  intro s h
  rw [outcome_map]
  exact hx s h

end Preserves

end

/-! ## Results -/

section

variable {P : α → Prop} {x : ExceptT ε (StateM σ) α}

/-- Whatever a step gives has a property. -/
def Returns (P : α → Prop) (x : ExceptT ε (StateM σ) α) : Prop :=
  ∀ s a, (outcome x s).1 = .ok a → P a

namespace Returns

lemma pure {a : α} (ha : P a) : Returns P (Pure.pure a : ExceptT ε (StateM σ) α) := by
  intro s a' h
  cases h
  exact ha

lemma throw (e : ε) : Returns P (MonadExcept.throw e : ExceptT ε (StateM σ) α) := by
  intro s a h
  cases h

/-- One step after another: what the first one gives may be used for the second one. -/
lemma bind_of {Q : β → Prop} {f : α → ExceptT ε (StateM σ) β} (hx : Returns P x)
    (hf : ∀ a, P a → Returns Q (f a)) : Returns Q (x >>= f) := by
  intro s b h
  obtain ⟨a, ha, hb⟩ := outcome_bind_eq_ok h
  exact hf a (hx s a ha) _ b hb

/-- One step after another. -/
lemma bind {Q : β → Prop} {f : α → ExceptT ε (StateM σ) β} (hf : ∀ a, Returns Q (f a)) :
    Returns Q (x >>= f) :=
  bind_of (P := fun _ => True) (fun _ _ _ => trivial) fun a _ => hf a

lemma ite {c : Prop} [Decidable c] {y : ExceptT ε (StateM σ) α} (hx : Returns P x)
    (hy : Returns P y) : Returns P (if c then x else y) := by
  split
  · exact hx
  · exact hy

end Returns

end

/-! ## Errors -/

section

variable {P : ε → Prop} {x : ExceptT ε (StateM σ) α}

/-- Whatever a step fails with has a property. -/
def FailsOnly (P : ε → Prop) (x : ExceptT ε (StateM σ) α) : Prop :=
  ∀ s e, (outcome x s).1 = .error e → P e

namespace FailsOnly

lemma pure (a : α) : FailsOnly P (Pure.pure a : ExceptT ε (StateM σ) α) := by
  intro s e h
  cases h

lemma throw {e : ε} (he : P e) : FailsOnly P (MonadExcept.throw e : ExceptT ε (StateM σ) α) := by
  intro s e' h
  cases h
  exact he

lemma liftM {r : Except ε α} (hr : ∀ e, r = .error e → P e) :
    FailsOnly P (MonadLiftT.monadLift r : ExceptT ε (StateM σ) α) :=
  fun _ => hr

/-- A step that always succeeds. -/
lemma of_succeeds (hx : ∀ s, ∃ a, (outcome x s).1 = .ok a) : FailsOnly P x := by
  intro s e h
  obtain ⟨a, ha⟩ := hx s
  cases h.symm.trans ha

/-- One step after another. -/
lemma bind {f : α → ExceptT ε (StateM σ) β} (hx : FailsOnly P x) (hf : ∀ a, FailsOnly P (f a)) :
    FailsOnly P (x >>= f) := by
  intro s e h
  rcases outcome_bind_eq_error_iff.1 h with h | ⟨a, t, -, h⟩
  · exact hx s e h
  · exact hf a t e h

/-- If the first one of two steps does not fail with this error, the second one does. -/
lemma bind_eq_error_iff {f : α → ExceptT ε (StateM σ) β} {e : ε} {s : σ}
    (hx : FailsOnly (· ≠ e) x) : (outcome (x >>= f) s).1 = .error e ↔
      ∃ a t, outcome x s = (.ok a, t) ∧ (outcome (f a) t).1 = .error e :=
  outcome_bind_eq_error_iff.trans (or_iff_right fun h => hx s e h rfl)

/-- If the second one of two steps does not fail with this error, the first one does. -/
lemma eq_error_bind_iff {f : α → ExceptT ε (StateM σ) β} {e : ε} {s : σ}
    (hf : ∀ a, FailsOnly (· ≠ e) (f a)) :
    (outcome (x >>= f) s).1 = .error e ↔ (outcome x s).1 = .error e := by
  refine outcome_bind_eq_error_iff.trans (or_iff_left ?_)
  rintro ⟨a, t, -, h⟩
  exact hf a t e h rfl

lemma ite {c : Prop} [Decidable c] {y : ExceptT ε (StateM σ) α} (hx : FailsOnly P x)
    (hy : FailsOnly P y) : FailsOnly P (if c then x else y) := by
  split
  · exact hx
  · exact hy

lemma map (f : α → β) (hx : FailsOnly P x) : FailsOnly P (f <$> x) := by
  rw [← bind_pure_comp]
  exact hx.bind fun _ => .pure _

end FailsOnly

end

end LiveMedia
