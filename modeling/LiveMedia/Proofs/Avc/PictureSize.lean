import LiveMedia.Proofs.Avc.SpsSyntax

set_option autoImplicit false

/-!
# The picture size of H.264 sequence parameter sets

The standard cuts the picture off in crop units, whose size depends on the chroma format and on
whether pictures may be fields. The size that is read takes the crop unit of 4:2:0 for every chroma
format.

## Main definitions

* `LiveMedia.Avc.Sps.cropUnitX`, `LiveMedia.Avc.Sps.cropUnitY` — the crop unit by the standard.
* `LiveMedia.Avc.Sps.Elements.croppedWidth`, `LiveMedia.Avc.Sps.Elements.croppedHeight` — the
  picture size by the standard, for a given chroma format.

## Main results

* `LiveMedia.Avc.Sps.size_of_parse` — the size that is read is that of a 4:2:0 picture.
* `LiveMedia.Avc.Sps.size_of_parse_not_standard` — so it is not that of every picture.
-/

namespace LiveMedia.Avc.Sps

open Bits

/-! ## The size by the standard -/

/-- The luma samples per chroma sample in a row: 4:2:0 and 4:2:2 halve the width of the chroma
planes. -/
def subWidth : (chromaFormatIdc : Nat) → Nat
  | 1 => 2
  | 2 => 2
  | _ => 1

/-- The luma samples per chroma sample in a column: 4:2:0 halves the height of the chroma planes. -/
def subHeight : (chromaFormatIdc : Nat) → Nat
  | 1 => 2
  | _ => 1

/-- The luma samples that a crop unit spans in a row, CropUnitX. -/
def cropUnitX (chromaFormatIdc : Nat) : Nat :=
  subWidth chromaFormatIdc

/-- The luma samples that a crop unit spans in a column, CropUnitY. Where pictures may be fields, it
spans as many in either field. -/
def cropUnitY (chromaFormatIdc : Nat) (frameMbsOnly : Bool) : Nat :=
  subHeight chromaFormatIdc * (if frameMbsOnly then 1 else 2)

namespace Elements

/-- The width of a picture of the given chroma format behind the cropping. -/
def croppedWidth (x : Elements) (chromaFormatIdc : Nat) : Int :=
  16 * (x.widthInMbs + 1) - cropUnitX chromaFormatIdc * (x.cropping.left + x.cropping.right)

/-- The height of a picture of the given chroma format behind the cropping. -/
def croppedHeight (x : Elements) (chromaFormatIdc : Nat) : Int :=
  16 * (if x.frameMbsOnly then 1 else 2) * (x.heightInMapUnits + 1) -
    cropUnitY chromaFormatIdc x.frameMbsOnly * (x.cropping.top + x.cropping.bottom)

end Elements

/-! ## A picture in 4:4:4 -/

/-- The elements of a set for 32 by 2 macroblocks in 4:4:4, with one crop unit cut off on the left
and one on the right. -/
def narrowElements : Elements where
  header := 0x67
  profile := 244
  constraint := 0
  level := 40
  id := 0
  chroma := some ⟨3, some false, 0, 0, false, none⟩
  log2MaxFrameNum := 0
  order := .lsb 0
  maxRefFrames := 3
  gapsInFrameNum := false
  widthInMbs := 31
  heightInMapUnits := 1
  adaptiveFrameField := none
  direct8x8Inference := true
  crop := some { left := 1, right := 1 }

/-- The set as an escaped unit, with nothing to display and the stop bit behind it. -/
def narrowUnit : Bytes := [0x67, 0xF4, 0x00, 0x28, 0x91, 0x9C, 0x80, 0x40, 0xBA, 0x5A]

/-- The set as it is parsed. -/
def narrowSps : Sps where
  profile := 244
  constraint := 0
  level := 40
  id := 0
  chromaFormatIdc := 3
  maxRefFrames := 3
  frameMbsOnly := true
  width := 508
  height := 32

lemma begins_narrow : Begins narrowElements narrowUnit := by
  refine ⟨?_, [false, true, false], by decide⟩
  constructor
  case chroma =>
    rintro _ ⟨⟩
    exact ⟨by decide, by decide, by decide, by decide, fun _ h => (by cases h)⟩
  case crop =>
    rintro _ ⟨⟩
    exact ⟨by decide, by decide, by decide, by decide⟩
  case order => exact Nat.zero_le _
  all_goals decide

lemma parse_narrow : parse narrowUnit = .ok narrowSps :=
  parse_of_begins begins_narrow

/-! ## The size that is read -/

/-- The chroma format 4:2:0. -/
def fourTwoZero : Nat := 1

lemma sizeOr_eq_ok_iff {defect : Defect} {o : Option Nat} {n : Nat} :
    sizeOr defect o = .ok n ↔ o = some n := by
  cases o with
  | none => simp [sizeOr]
  | some m => simp [sizeOr]

lemma croppedSize_eq_some_iff {full a b n : Nat} :
    croppedSize full a b = some n ↔ n + 2 * (a + b) = full ∧ n < sizeSpace := by
  unfold croppedSize
  dsimp only
  split
  · next h =>
    rw [Option.some_inj]
    omega
  · next h =>
    refine ⟨fun h => (by cases h), fun ⟨hn, hlt⟩ => absurd ⟨by omega, by omega⟩ h⟩

/-- A description tells the sizes, if there are any. -/
lemma describe_eq_ok {f : Fields} {sps : Sps} (h : f.describe = .ok sps) :
    f.width = .ok sps.width ∧ f.height = .ok sps.height := by
  unfold Fields.describe at h
  cases hw : f.width with
  | error e =>
    rw [hw] at h
    cases h
  | ok width =>
    cases hh : f.height with
    | error e =>
      rw [hw, hh] at h
      cases h
    | ok height =>
      rw [hw, hh] at h
      cases h
      exact ⟨rfl, rfl⟩

/-- **Pictures are cropped as in 4:2:0.** What is accepted begins with the elements of a set, and
whatever the chroma format, the width of the picture is that of a 4:2:0 picture by the standard. So is
the height if all pictures are frames, or if nothing is cut off at the top and the bottom.

**Proof sketch.** An accepted unit is parsed as what its elements say (`parse_of_begins`), and there a
crop unit is two samples in both directions (`croppedSize_eq_some_iff`): the unit of 4:2:0 in a row,
and in a column if all pictures are frames. -/
theorem size_of_parse {nal : Bytes} {sps : Sps} (h : parse nal = .ok sps) :
    (∃ x, Begins x nal) ∧ ∀ x, Begins x nal →
      sps.width = x.croppedWidth fourTwoZero ∧
      (x.frameMbsOnly = true ∨ x.cropping.top = 0 ∧ x.cropping.bottom = 0 →
        sps.height = x.croppedHeight fourTwoZero) := by
  refine ⟨exists_begins_of_parse h, fun x hx => ?_⟩
  rw [parse_of_begins hx] at h
  obtain ⟨hw, hh⟩ := describe_eq_ok h
  have hwidth : sps.width + 2 * (x.cropping.left + x.cropping.right) = (x.widthInMbs + 1) * 16 :=
    (croppedSize_eq_some_iff.1 (sizeOr_eq_ok_iff.1 hw)).1
  have hheight : sps.height + 2 * (x.cropping.top + x.cropping.bottom) =
      (if x.frameMbsOnly then 1 else 2) * (x.heightInMapUnits + 1) * 16 :=
    (croppedSize_eq_some_iff.1 (sizeOr_eq_ok_iff.1 hh)).1
  constructor
  · simp only [Elements.croppedWidth, cropUnitX, fourTwoZero, subWidth]
    omega
  · simp only [Elements.croppedHeight, cropUnitY, fourTwoZero, subHeight]
    cases hframes : x.frameMbsOnly with
    | true =>
      rw [hframes, if_pos rfl] at hheight
      simp only [if_true]
      omega
    | false =>
      rw [hframes, if_neg Bool.false_ne_true] at hheight
      rintro (h | ⟨htop, hbottom⟩)
      · cases h
      · simp only [htop, hbottom, Bool.false_eq_true, if_false] at hheight ⊢
        omega

/-- Two samples in a row are cut off on either side of the 4:4:4 picture. -/
theorem size_of_parse_narrow :
    parse narrowUnit = .ok narrowSps ∧ Begins narrowElements narrowUnit ∧
      narrowElements.frameMbsOnly = true ∧
      (narrowSps.width : Int) = narrowElements.croppedWidth fourTwoZero ∧
      (narrowSps.height : Int) = narrowElements.croppedHeight fourTwoZero := by
  obtain ⟨-, hsize⟩ := size_of_parse parse_narrow
  obtain ⟨hwidth, hheight⟩ := hsize narrowElements begins_narrow
  exact ⟨parse_narrow, begins_narrow, rfl, hwidth, hheight (Or.inl rfl)⟩

/-- **Not every picture is cropped by its own crop unit.** By the standard, one sample in a row is cut
off on either side of the 4:4:4 picture. -/
theorem size_of_parse_not_standard :
    ¬ ∀ (nal : Bytes) (sps : Sps) (x : Elements), parse nal = .ok sps → Begins x nal →
      x.chromaFormatIdc ≤ 3 → (∀ c ∈ x.chroma, c.separatePlanes ≠ some true) →
        sps.width = x.croppedWidth x.chromaFormatIdc ∧
        sps.height = x.croppedHeight x.chromaFormatIdc := by
  intro h
  have hplanes : ∀ c ∈ narrowElements.chroma, c.separatePlanes ≠ some true := by
    rintro _ ⟨⟩
    decide
  obtain ⟨hwidth, -⟩ :=
    h narrowUnit narrowSps narrowElements parse_narrow begins_narrow (by decide) hplanes
  exact absurd hwidth (by decide)

end LiveMedia.Avc.Sps
