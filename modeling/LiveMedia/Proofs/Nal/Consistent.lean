import LiveMedia.Proofs.Nal.Scan

set_option autoImplicit false

/-!
# Consistent fragment indexes

An index is consistent with a payload if its ranges are in order, do not overlap and lie inside the
payload. The indexes that are written together with a payload, and those that a scan finds, are
consistent; one that a caller sends along need not be, and is checked before its ranges are used.

## Main definitions

* `LiveMedia.Nal.FragmentIndex.Consistent` — the ranges are sorted, disjoint and inside.

## Main results

* `LiveMedia.Nal.FragmentIndex.checkConsistent_eq_true_iff` — the check finds just this.
* `LiveMedia.Nal.consistent_scan`, `LiveMedia.Nal.Framing.consistent_frame` — the indexes of a scan
  and of a framed run.
-/

namespace LiveMedia.Nal

namespace FragmentIndex

/-- The ranges are sorted, disjoint and inside a payload of `size` bytes. -/
structure Consistent (index : FragmentIndex) (size : Nat) : Prop where
  sorted : index.Pairwise fun f g => f.stop ≤ g.offset
  inside : ∀ f ∈ index, f.stop ≤ size

variable {index : FragmentIndex} {size start : Nat} {f : Fragment}

lemma consistent_nil (size : Nat) : Consistent [] size :=
  ⟨.nil, nofun⟩

lemma consistent_cons_iff : Consistent (f :: index) size ↔
    f.stop ≤ size ∧ (∀ g ∈ index, f.stop ≤ g.offset) ∧ Consistent index size := by
  constructor
  · rintro ⟨hsorted, hinside⟩
    obtain ⟨hbefore, hsorted⟩ := List.pairwise_cons.1 hsorted
    have hstop : f.stop ≤ size := hinside f List.mem_cons_self
    exact ⟨hstop, hbefore, hsorted, fun g hg => hinside g (List.mem_cons_of_mem f hg)⟩
  · rintro ⟨hstop, hbefore, hsorted, hinside⟩
    refine ⟨List.pairwise_cons.2 ⟨hbefore, hsorted⟩, fun g hg => ?_⟩
    rcases List.mem_cons.1 hg with rfl | hg
    · exact hstop
    · exact hinside g hg

/-- The first range is checked before the others. -/
lemma checkFrom_cons_eq_true_iff : checkFrom size start (f :: index) = .ok true ↔
    start ≤ f.offset ∧ f.stop < addressSpace ∧ f.stop ≤ size ∧
      checkFrom size f.stop index = .ok true := by
  rw [checkFrom, Fragment.checkedStop]
  by_cases hstart : f.offset < start
  · rw [if_pos hstart]
    exact ⟨fun h => (by cases h), fun h => absurd h.1 (Nat.not_le.2 hstart)⟩
  · rw [if_neg hstart]
    by_cases hfits : f.stop < addressSpace
    · rw [if_pos hfits]
      show (if size < f.stop then _ else _) = _ ↔ _
      by_cases hsize : size < f.stop
      · rw [if_pos hsize]
        exact ⟨fun h => (by cases h), fun h => absurd h.2.2.1 (Nat.not_le.2 hsize)⟩
      · rw [if_neg hsize]
        simp [hfits, Nat.not_lt.1 hstart, Nat.not_lt.1 hsize]
    · rw [if_neg hfits]
      exact ⟨fun h => (by cases h), fun h => absurd h.2.1 hfits⟩

/-- The check of the ranges behind `start`. -/
lemma checkFrom_eq_true_iff : checkFrom size start index = .ok true ↔
    (∀ f ∈ index, start ≤ f.offset ∧ f.stop < addressSpace) ∧ index.Consistent size := by
  induction index generalizing start with
  | nil => exact ⟨fun _ => ⟨nofun, consistent_nil size⟩, fun _ => rfl⟩
  | cons f index ih =>
    rw [checkFrom_cons_eq_true_iff, ih, consistent_cons_iff, List.forall_mem_cons]
    constructor
    · rintro ⟨hstart, hfits, hstop, hbehind, hrest⟩
      have hle : f.offset ≤ f.stop := Nat.le_add_right _ _
      have hbehind' : ∀ g ∈ index, start ≤ g.offset ∧ g.stop < addressSpace := by
        intro g hg
        obtain ⟨hoffset, hgfits⟩ := hbehind g hg
        exact ⟨by omega, hgfits⟩
      exact ⟨⟨⟨hstart, hfits⟩, hbehind'⟩, hstop, fun g hg => (hbehind g hg).1, hrest⟩
    · rintro ⟨⟨⟨hstart, hfits⟩, hbehind⟩, hstop, hsorted, hrest⟩
      exact ⟨hstart, hfits, hstop, fun g hg => ⟨hsorted g hg, (hbehind g hg).2⟩, hrest⟩

/-- **The check finds just the consistent indexes**, in a payload whose size a machine word can
hold. -/
theorem checkConsistent_eq_true_iff (hsize : size < addressSpace) :
    index.checkConsistent size = .ok true ↔ index.Consistent size := by
  rw [checkConsistent, checkFrom_eq_true_iff]
  refine ⟨And.right, fun h => ⟨fun f hf => ⟨Nat.zero_le f.offset, ?_⟩, h⟩⟩
  exact (h.inside f hf).trans_lt hsize

end FragmentIndex

/-- The units of a run of pieces lie in it one behind the other. -/
lemma Piece.consistent_places (ps : List Piece) :
    FragmentIndex.Consistent (places 0 ps) (joined ps).length :=
  ⟨pairwise_places 0 ps, fun _ hf => stop_le_of_mem_places hf⟩

/-- The index of a framed run is consistent with its bytes. -/
lemma Framing.consistent_frame (framing : Framing) (nals : List Bytes) :
    (framing.frame nals).index.Consistent (framing.frame nals).data.length := by
  have h := Piece.consistent_places (framing.pieces nals)
  rwa [places_pieces, joined_pieces] at h

/-- The index of a scan is consistent with the buffer. -/
lemma consistent_scan (data : Bytes) : (scan data).Consistent data.length := by
  have h := Piece.consistent_places (ByteStream.parse data).pieces
  rwa [ByteStream.places_pieces, ByteStream.joined_pieces, ByteStream.bytes_parse] at h

end LiveMedia.Nal
