import LiveMedia.Aac.AudioConfig
import LiveMedia.Proofs.Bits.Cursor

set_option autoImplicit false

/-!
# Why AAC configurations are refused

A configuration is refused by its parser only where its bits end: the general audio part may be cut
short, and no field is too wide to be read. One that is parsed may still be unusable.

## Main definitions

* `LiveMedia.Bits.FailsShort` — a program that reads fails only where the bits end.
* `LiveMedia.Aac.AudioConfig.Usable` — bytes that are parsed as a usable configuration.
* `LiveMedia.Aac.AudioConfig.refusal` — why other bytes are refused.

## Main results

* `LiveMedia.Aac.AudioConfig.eq_truncated_of_parse` — the one error of the parser.
-/

namespace LiveMedia

namespace Bits

/-! ## Programs that fail where the bits end -/

section

variable {α β : Type} {x : Read BitCursor α} {n : Nat}

/-- A program fails only where the bits end. -/
def FailsShort (x : Read BitCursor α) : Prop :=
  ∀ c e, (outcome x c).1 = .error e → e = .truncated

namespace FailsShort

lemma pure (a : α) : FailsShort (Pure.pure a) :=
  FailsOnly.pure a

lemma bind {f : α → Read BitCursor β} (hx : FailsShort x) (hf : ∀ a, FailsShort (f a)) :
    FailsShort (x >>= f) :=
  FailsOnly.bind hx hf

lemma ite {p : Prop} [Decidable p] {y : Read BitCursor α} (hx : FailsShort x) (hy : FailsShort y) :
    FailsShort (if p then x else y) :=
  FailsOnly.ite hx hy

/-- A failure that is caught is none. -/
lemma tryCatch_pure (x : Read BitCursor α) (a : α) :
    FailsShort (tryCatch x fun _ => Pure.pure a) := by
  intro c e h
  rw [outcome_tryCatch] at h
  rcases hc : outcome x c with ⟨e' | b, c'⟩ <;> rw [hc] at h <;> cases h

lemma readBits (hn : n ≤ maxFieldWidth) : FailsShort (readBits n : Read BitCursor Nat) := by
  intro c e h
  rw [(follows_readBits n c c.left rfl).1] at h
  have hfield : (Bits.readBits n : Read (List Bool) Nat) = toNat <$> takeBits n :=
    if_neg (Nat.not_lt.2 hn)
  rw [hfield, outcome_map] at h
  cases htake : (outcome (takeBits n) c.left).1 with
  | error e' =>
    rw [htake] at h
    cases h
    exact eq_truncated_of_takeBits htake
  | ok taken =>
    rw [htake] at h
    cases h

end FailsShort

end

end Bits

namespace Aac.AudioConfig

open Bits

/-! ## The parser -/

lemma failsShort_readObjectType : FailsShort (readObjectType : Read BitCursor Nat) :=
  (FailsShort.readBits (by decide)).bind fun _ =>
    .ite ((FailsShort.readBits (by decide)).bind fun _ => .pure _) (.pure _)

lemma failsShort_readFrequency : FailsShort (readFrequency : Read BitCursor (Nat × Nat)) :=
  (FailsShort.readBits (by decide)).bind fun _ =>
    .ite ((FailsShort.readBits (by decide)).bind fun _ => .pure _) (.pure _)

lemma failsShort_readCoreType : FailsShort (readCoreType : Read BitCursor Nat) :=
  failsShort_readFrequency.bind fun _ => failsShort_readObjectType.bind fun _ =>
    .ite ((FailsShort.readBits (by decide)).bind fun _ => .pure _) (.pure _)

lemma failsShort_read (raw : Bytes) : FailsShort (read raw : Read BitCursor AudioConfig) := by
  refine failsShort_readObjectType.bind fun outerType => failsShort_readFrequency.bind fun _ =>
    (FailsShort.readBits (by decide)).bind fun _ =>
      .ite (failsShort_readCoreType.bind fun _ => ?_) ((FailsShort.pure _).bind fun _ => ?_)
  -- whatever the core type, a general audio part that is cut short is caught
  all_goals
    exact .ite ((FailsShort.tryCatch_pure _ _).bind fun _ => .pure _)
      ((FailsShort.pure _).bind fun _ => .pure _)

/-- A configuration is refused by its parser only where its bits end. -/
theorem eq_truncated_of_parse {data : Bytes} {e : MediaError} (h : parse data = .error e) :
    e = .truncated := by
  unfold parse at h
  split at h
  · cases h
    rfl
  · exact failsShort_read data _ e h

/-! ## Usable configurations -/

/-- The bytes are parsed as a usable configuration. -/
def Usable (data : Bytes) : Prop :=
  ∃ config, parse data = .ok config ∧ config.isValid = true

instance (data : Bytes) : Decidable (Usable data) :=
  match h : parse data with
  | .ok config => decidable_of_iff (config.isValid = true) (by simp [Usable, h])
  | .error _ => .isFalse (by simp [Usable, h])

/-- Why bytes that are no usable configuration are refused. -/
def refusal (data : Bytes) : MediaError :=
  match parse data with
  | .error e => e
  | .ok _ => .invalid .invalidAudioConfig

/-- Bytes are refused because they end too early or because what they say is unusable. -/
lemma refusal_eq (data : Bytes) :
    refusal data = .truncated ∨ refusal data = .invalid .invalidAudioConfig := by
  unfold refusal
  cases hparse : parse data with
  | error e => exact Or.inl (eq_truncated_of_parse hparse)
  | ok config => exact Or.inr rfl

end Aac.AudioConfig

end LiveMedia
