import LiveMedia.Avc.DecoderConfig
import LiveMedia.Hevc.DecoderConfig
import Mathlib.Tactic.Lemma

set_option autoImplicit false

/-!
# Why configuration records are refused

A record is refused for what is wrong with its own bytes: they end too early, or a field cannot be.

## Main definitions

* `LiveMedia.MediaError.IsMalformed` — the errors that are about the bytes.
* `LiveMedia.Record.FailsMalformed` — a reader fails with such an error only.

## Main results

* `LiveMedia.Avc.DecoderConfig.isMalformed_of_parse`,
  `LiveMedia.Hevc.DecoderConfig.isMalformed_of_parse` — the errors of the two parsers.
-/

namespace LiveMedia

/-- The bytes end inside a field, or what they say is wrong. -/
def MediaError.IsMalformed : MediaError → Prop
  | .truncated | .invalid _ => True
  | .unsupportedFormat _ | .missingConfig | .overflow => False

namespace MediaError

lemma isMalformed_truncated : IsMalformed .truncated := trivial

lemma isMalformed_invalid (d : Defect) : IsMalformed (.invalid d) := trivial

end MediaError

open MediaError

namespace Record

variable {α β : Type} {x : Reader α}

/-- A reader fails only because the record is malformed. -/
def FailsMalformed (x : Reader α) : Prop :=
  ∀ data e, x.run data = .error e → e.IsMalformed

namespace FailsMalformed

lemma pure (a : α) : FailsMalformed (Pure.pure a) := by
  intro data e h
  cases h

lemma throw {e : MediaError} (he : e.IsMalformed) :
    FailsMalformed (MonadExcept.throw e : Reader α) := by
  intro data e' h
  cases h
  exact he

lemma bind {f : α → Reader β} (hx : FailsMalformed x) (hf : ∀ a, FailsMalformed (f a)) :
    FailsMalformed (x >>= f) := by
  intro data e h
  rw [StateT.run_bind] at h
  cases hr : x.run data with
  | error e' =>
    rw [hr] at h
    cases h
    exact hx data e hr
  | ok r =>
    rw [hr] at h
    exact hf r.1 r.2 e h

lemma ite {p : Prop} [Decidable p] {y : Reader α} (hx : FailsMalformed x)
    (hy : FailsMalformed y) : FailsMalformed (if p then x else y) := by
  split
  · exact hx
  · exact hy

lemma take (n : Nat) {short : MediaError} (hshort : short.IsMalformed) :
    FailsMalformed (Record.take n short) := by
  intro data e h
  unfold Record.take at h
  rw [StateT.run] at h
  split at h
  · cases h
    exact hshort
  · cases h

lemma number (width : Nat) : FailsMalformed (Record.number width) :=
  (take width isMalformed_truncated).bind fun _ => .pure _

lemma sized (tooLong : Defect) : FailsMalformed (Record.sized tooLong) :=
  (number 2).bind fun length => take length (isMalformed_invalid tooLong)

lemma times (hx : FailsMalformed x) (n : Nat) : FailsMalformed (Record.times x n) := by
  induction n with
  | zero => exact .pure _
  | succ n ih => exact hx.bind fun _ => ih.bind fun _ => .pure _

/-- What is left of the record does not matter. -/
lemma of_run' (hx : FailsMalformed x) {data : Bytes} {e : MediaError}
    (h : x.run' data = .error e) : e.IsMalformed := by
  have hrun : x.run' data = (x.run data).map Prod.fst := rfl
  rw [hrun] at h
  cases hr : x.run data with
  | error e' =>
    rw [hr] at h
    cases h
    exact hx data e hr
  | ok r =>
    rw [hr] at h
    cases h

end FailsMalformed

end Record

open Record

namespace Avc.DecoderConfig

lemma failsMalformed_parameterSets (modulus : Nat) : FailsMalformed (parameterSets modulus) :=
  (FailsMalformed.number 1).bind fun _ => (FailsMalformed.sized _).times _

lemma failsMalformed_fields (raw : Bytes) : FailsMalformed (fields raw) := by
  refine (FailsMalformed.number 1).bind fun version => ?_
  -- what follows the check of the version is the same in both branches
  refine .ite ((FailsMalformed.throw (isMalformed_invalid _)).bind fun _ => ?_) ?_
  all_goals
    exact (FailsMalformed.number 1).bind fun _ => (FailsMalformed.number 1).bind fun _ =>
      (FailsMalformed.number 1).bind fun _ => (FailsMalformed.number 1).bind fun _ =>
      (failsMalformed_parameterSets 32).bind fun _ =>
      (failsMalformed_parameterSets 256).bind fun _ => .pure _

theorem isMalformed_of_parse {data : Bytes} {e : MediaError} (h : parse data = .error e) :
    e.IsMalformed := by
  unfold parse at h
  split at h
  · cases h
    exact isMalformed_truncated
  · exact (failsMalformed_fields data).of_run' h

end Avc.DecoderConfig

namespace Hevc.DecoderConfig

lemma failsMalformed_unitArray : FailsMalformed unitArray :=
  (FailsMalformed.number 1).bind fun _ => (FailsMalformed.number 2).bind fun _ =>
    (FailsMalformed.sized _).times _

lemma failsMalformed_fields (raw : Bytes) : FailsMalformed (fields raw) := by
  refine (FailsMalformed.take _ isMalformed_truncated).bind fun header => ?_
  refine .ite ((FailsMalformed.throw (isMalformed_invalid _)).bind fun _ => ?_) ?_
  all_goals exact (failsMalformed_unitArray.times _).bind fun _ => .pure _

theorem isMalformed_of_parse {data : Bytes} {e : MediaError} (h : parse data = .error e) :
    e.IsMalformed :=
  (failsMalformed_fields data).of_run' h

end Hevc.DecoderConfig

end LiveMedia
