import LiveMedia.Proofs.Outcome
import LiveMedia.Track.Normalizer
import Mathlib.Data.List.Induction

set_option autoImplicit false

/-!
# Normalizing the packets of a track

The packets of a track go through its normalizer one after another; each one may leave a packet and
change the configurations that the next ones are read by.

## Main definitions

* `LiveMedia.Normalizer.normalizeAll` — the packets that are left of a list of packets, and the
  normalizer after them.

## Main results

* `LiveMedia.Normalizer.track_of_normalize`, `LiveMedia.Normalizer.track_of_mem_normalizeAll` — a
  packet stays on its track.
* `LiveMedia.Normalizer.normalizeAll_append` — the packets may be taken in parts.
-/

namespace LiveMedia.Normalizer

variable {n : Normalizer} {p q : Packet}

/-! ## One packet -/

/-- An ADTS packet that is accepted is changed in its keyframe mark only. -/
lemma eq_of_checkedAdts (h : checkedAdts p = .ok q) : q = { p with keyframe := true } := by
  unfold checkedAdts at h
  cases hp : Aac.AdtsHeader.parse p.payload with
  | error e =>
    rw [hp] at h
    cases h
  | ok header =>
    simp only [hp, Except.bind, bind] at h
    split at h
    · cases h
    · cases h
      rfl

/-- An access unit stays on its track, whatever its framing. -/
lemma track_of_normalizeUnit (h : (outcome (normalizeUnit p) n).1 = .ok q) :
    q.track = p.track := by
  unfold normalizeUnit at h
  split at h
  case h_1 | h_2 | h_8 | h_9 | h_10 =>
    cases h
    rfl
  case h_3 | h_4 =>
    obtain ⟨s, -, h⟩ := outcome_bind_eq_ok h
    obtain ⟨u, -, h⟩ := outcome_bind_eq_ok h
    cases h
    rfl
  case h_5 | h_6 =>
    obtain ⟨s, -, h⟩ := outcome_bind_eq_ok h
    obtain ⟨payload, -, h⟩ := outcome_bind_eq_ok h
    cases h
    rfl
  case h_7 =>
    rw [eq_of_checkedAdts h]

/-- A packet that is normalized stays on its track. -/
lemma track_of_normalize (h : (outcome (normalize p) n).1 = .ok (some q)) :
    q.track = p.track := by
  unfold normalize at h
  split at h
  · obtain ⟨_, -, h⟩ := outcome_bind_eq_ok h
    cases h
  · cases h
    rfl
  · rw [outcome_map] at h
    cases hu : (outcome (normalizeUnit p) n).1 with
    | error e =>
      rw [hu] at h
      cases h
    | ok u =>
      rw [hu] at h
      cases h
      exact track_of_normalizeUnit hu

/-! ## Packet after packet -/

/-- The packets that are left of a list of packets, and the normalizer after them. Packets that are
absorbed or refused leave nothing. -/
def normalizeAll (n : Normalizer) (ps : List Packet) : List Packet × Normalizer :=
  ps.foldl (fun (qs, n) p =>
    let (result, n) := outcome (normalize p) n
    (qs ++ result.toOption.join.toList, n)) ([], n)

@[simp] lemma normalizeAll_nil (n : Normalizer) : n.normalizeAll [] = ([], n) := rfl

lemma normalizeAll_singleton (n : Normalizer) (p : Packet) :
    n.normalizeAll [p] =
      ((outcome (normalize p) n).1.toOption.join.toList, (outcome (normalize p) n).2) := rfl

/-- What is left of a packet stays on its track. -/
lemma track_of_mem_normalizeAll (h : q ∈ (n.normalizeAll [p]).1) : q.track = p.track := by
  refine track_of_normalize (n := n) ?_
  rw [normalizeAll_singleton] at h
  rcases hr : (outcome (normalize p) n).1 with e | _ | r
  · simp [hr, Except.toOption] at h
  · simp [hr, Except.toOption] at h
  · simp only [hr, Except.toOption, Option.join_some, Option.toList_some, List.mem_singleton] at h
    rw [h]

/-- The last packet goes through the normalizer that the others have left. -/
lemma normalizeAll_concat (n : Normalizer) (ps : List Packet) (p : Packet) :
    n.normalizeAll (ps ++ [p]) =
      ((n.normalizeAll ps).1 ++ ((n.normalizeAll ps).2.normalizeAll [p]).1,
        ((n.normalizeAll ps).2.normalizeAll [p]).2) := by
  simp only [normalizeAll, List.foldl_append, List.foldl_cons, List.foldl_nil, List.nil_append]

/-- Packets go through the normalizer that the earlier ones have left. -/
lemma normalizeAll_append (n : Normalizer) (ps qs : List Packet) :
    n.normalizeAll (ps ++ qs) =
      ((n.normalizeAll ps).1 ++ ((n.normalizeAll ps).2.normalizeAll qs).1,
        ((n.normalizeAll ps).2.normalizeAll qs).2) := by
  induction qs using List.reverseRecOn with
  | nil => simp
  | append_singleton qs q ih =>
    rw [← List.append_assoc, normalizeAll_concat, ih, normalizeAll_concat _ qs, List.append_assoc]

end LiveMedia.Normalizer
