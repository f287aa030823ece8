import LiveMedia.Proofs.Avc.PictureSize

set_option autoImplicit false

/-!
# H.264 sequence parameter sets, written and parsed

A set that is written element by element, packed into bytes and escaped is parsed as what its
elements say, whatever is written behind it. All that can be wrong with it is the size of the
picture. If the unit is cut anywhere in front of the byte that holds the last bit of the set, it is
found truncated.

## Main definitions

* `LiveMedia.Avc.Sps.IsStandardList` — the scaling lists that the standard admits.
* `LiveMedia.Avc.Sps.Elements.unit` — a set as an escaped unit.
* `LiveMedia.Avc.Sps.Elements.pictureWidth`, `LiveMedia.Avc.Sps.Elements.pictureHeight` — the size of
  the picture behind the cropping, with two samples to a crop unit.

## Main results

* `LiveMedia.Avc.Sps.IsStandardList.isScalingList` — the lists of the standard can be read.
* `LiveMedia.Avc.Sps.parse_of_cut` — a unit that is cut inside the set.
* `LiveMedia.Avc.Sps.parse_unit` — every set that is written is parsed.
-/

namespace LiveMedia.Avc.Sps

open Bits

/-! ## Scaling lists of the standard -/

/-- The deltas of a scaling list of `size` entries behind the scale `last`, each in the range that
the standard gives for delta_scale. -/
inductive IsStandardList : (size : Nat) → (last next : Int) → (deltas : List Int) → Prop where
  | full {last next : Int} : IsStandardList 0 last next []
  | ended {size : Nat} {last : Int} : IsStandardList (size + 1) last 0 []
  | delta {size : Nat} {last next delta scale : Int} {deltas : List Int} (hnext : next ≠ 0)
      (hlow : -128 ≤ delta) (hhigh : delta ≤ 127) (hscale : scale = (last + delta + 256) % 256)
      (hrest : IsStandardList size (if scale = 0 then last else scale) scale deltas) :
      IsStandardList (size + 1) last next (delta :: deltas)

lemma signedCode_le {k : Int} (hlow : -128 ≤ k) (hhigh : k ≤ 127) : signedCode k ≤ 256 := by
  unfold signedCode
  split <;> omega

/-- The deltas of the standard can be read, and no sum with a scale leaves its range. -/
lemma IsStandardList.isScalingList {size : Nat} {last next : Int} {deltas : List Int}
    (h : IsStandardList size last next deltas) (hlast : 0 ≤ last ∧ last < 256) :
    IsScalingList size last next deltas := by
  induction h with
  | full => exact .full
  | ended => exact .ended
  | @delta size last next delta scale deltas hnext hlow hhigh hscale _ ih =>
    have hsum : scaleSum last delta = .ok (last + delta + 256) := by
      refine if_pos ?_
      unfold scaleLimit
      omega
    refine .delta hnext ((signedCode_le hlow hhigh).trans (by decide)) hsum ?_
    rw [← hscale]
    refine ih ?_
    split <;> omega

/-! ## Sizes -/

namespace Elements

/-- The width behind the cropping, two samples to a crop unit. -/
def pictureWidth (x : Elements) : Int :=
  16 * (x.widthInMbs + 1) - 2 * (x.cropping.left + x.cropping.right)

/-- The height behind the cropping, two samples to a crop unit. -/
def pictureHeight (x : Elements) : Int :=
  16 * (if x.frameMbsOnly then 1 else 2) * (x.heightInMapUnits + 1) -
    2 * (x.cropping.top + x.cropping.bottom)

/-- The picture is not cropped away, and its size fits in 32 bits. -/
structure HasPicture (x : Elements) : Prop where
  width_nonneg : 0 ≤ x.pictureWidth
  width_lt : x.pictureWidth < 0x100000000
  height_nonneg : 0 ≤ x.pictureHeight
  height_lt : x.pictureHeight < 0x100000000

end Elements

section

variable {x : Elements} {f : Fields} {width height : Nat}

lemma width_fields_eq_ok_iff : x.fields.width = .ok width ↔
    (width : Int) = x.pictureWidth ∧ x.pictureWidth < 0x100000000 := by
  rw [Fields.width, sizeOr_eq_ok_iff, croppedSize_eq_some_iff]
  unfold Elements.pictureWidth macroblockSize sizeSpace
  show width + 2 * (x.cropping.left + x.cropping.right) = (x.widthInMbs + 1) * 16 ∧ _ ↔ _
  omega

lemma height_fields_eq_ok_iff : x.fields.height = .ok height ↔
    (height : Int) = x.pictureHeight ∧ x.pictureHeight < 0x100000000 := by
  rw [Fields.height, sizeOr_eq_ok_iff, croppedSize_eq_some_iff]
  unfold Elements.pictureHeight macroblockSize sizeSpace
  show height + 2 * (x.cropping.top + x.cropping.bottom) =
    (if x.frameMbsOnly then 1 else 2) * (x.heightInMapUnits + 1) * 16 ∧ _ ↔ _
  cases x.frameMbsOnly <;> simp only [if_true, if_false, Bool.false_eq_true] <;> omega

/-- A size that there is not is told by its own error. -/
lemma eq_error_of_sizeOr {defect : Defect} {o : Option Nat} (h : ∀ n, sizeOr defect o ≠ .ok n) :
    sizeOr defect o = .error (.invalid defect) := by
  cases o with
  | none => rfl
  | some n => exact absurd rfl (h n)

lemma describe_of_ok (hwidth : f.width = .ok width) (hheight : f.height = .ok height) :
    f.describe = .ok ⟨f.profile, f.constraint, f.level, f.id, f.chromaFormatIdc, f.maxRefFrames,
      f.frameMbsOnly, width, height⟩ := by
  unfold Fields.describe
  rw [hwidth, hheight]
  rfl

/-- Without a size there is no description. -/
lemma exists_describe_eq_error
    (h : ¬∃ width height, f.width = .ok width ∧ f.height = .ok height) :
    ∃ d, (d = .croppingWidth ∨ d = .croppingHeight) ∧ f.describe = .error (.invalid d) := by
  unfold Fields.describe
  cases hwidth : f.width with
  | error e =>
    have herror : f.width = .error (.invalid .croppingWidth) := by
      refine eq_error_of_sizeOr fun n hn => ?_
      rw [← Fields.width, hwidth] at hn
      cases hn
    rw [hwidth] at herror
    cases herror
    exact ⟨_, Or.inl rfl, rfl⟩
  | ok width =>
    have herror : f.height = .error (.invalid .croppingHeight) :=
      eq_error_of_sizeOr fun n hn => h ⟨width, n, hwidth, hn⟩
    rw [herror]
    exact ⟨_, Or.inr rfl, rfl⟩

end

/-! ## Units -/

namespace Elements

/-- The bytes of a set, with more bits behind it, before they are escaped. -/
def payload (x : Elements) (behind : List Bool) : Bytes :=
  toBytes (x.bits ++ behind)

/-- The set as an escaped unit, with more bits behind it. -/
def unit (x : Elements) (behind : List Bool) : Bytes :=
  Nal.escape (x.payload behind)

/-- The number of bytes that hold the set. -/
def size (x : Elements) : Nat :=
  (x.bits.length + 7) / 8

/-- The unit up to the byte that holds the last bit of the set. -/
def core (x : Elements) (behind : List Bool) : Bytes :=
  Nal.escape ((x.payload behind).take x.size)

variable (x : Elements) (behind : List Bool)

lemma length_bits_pos : 0 < x.bits.length := by
  rw [bits, List.length_append, length_ofNat]
  omega

/-- The bits of the bytes are those of the set, those behind it, and zeros that fill a byte. -/
lemma exists_ofBytes_payload :
    ∃ fill, ofBytes (x.payload behind) = x.bits ++ (behind ++ fill) := by
  rw [payload, ofBytes_toBytes, List.append_assoc]
  exact ⟨_, rfl⟩

lemma size_le_length_payload : x.size ≤ (x.payload behind).length := by
  obtain ⟨fill, hfill⟩ := x.exists_ofBytes_payload behind
  have hlen := congrArg List.length hfill
  rw [length_ofBytes, List.length_append] at hlen
  unfold size
  omega

lemma core_prefix_unit : x.core behind <+: x.unit behind := by
  have h := Nal.escapeFrom_prefix 0 ((x.payload behind).take x.size) ((x.payload behind).drop x.size)
  rwa [List.take_append_drop] at h

/-- The core ends in the byte that holds the last bit of the set. -/
lemma getLast?_core : (x.core behind).getLast? = (x.payload behind)[(x.bits.length - 1) / 8]? := by
  have hpos := x.length_bits_pos
  have hle := x.size_le_length_payload behind
  have hindex : x.size - 1 = (x.bits.length - 1) / 8 := by
    unfold size
    omega
  show (Nal.escapeFrom 0 _).getLast? = _
  rw [Nal.getLast?_escapeFrom, List.getLast?_eq_getElem?, List.length_take_of_le hle,
    List.getElem?_take_of_lt, hindex]
  unfold size
  omega

end Elements

section

variable {x : Elements} {behind : List Bool} {m : Nat}

lemma begins_unit (hx : x.WellFormed) (behind : List Bool) : Begins x (x.unit behind) := by
  obtain ⟨fill, hfill⟩ := x.exists_ofBytes_payload behind
  have hback : Nal.unescape (x.unit behind) = x.payload behind :=
    Nal.unescapeFrom_escapeFrom 0 _
  exact ⟨hx, behind ++ fill, by rw [hback, hfill]⟩

/-- **A unit that is cut inside the set is truncated.**

**Proof sketch.** Of the cut unit fewer bytes are read than hold the set
(`unescapeFrom_take_escapeFrom`), so that on the whole payload the set is read beyond the cut. Bits
that are cut short are read like the whole of them until they end. -/
lemma parse_of_cut (hx : x.WellFormed) (hm : m < (x.core behind).length) :
    parse ((x.unit behind).take m) = .error .truncated := by
  have hpos := x.length_bits_pos
  have hsize : x.size = (x.bits.length - 1) / 8 + 1 := by
    unfold Elements.size
    omega
  have hle := x.size_le_length_payload behind
  rw [Elements.core, hsize] at hm
  set payload := x.payload behind with hpayload
  obtain ⟨k, hk, hcut⟩ : ∃ k ≤ (x.bits.length - 1) / 8,
      Nal.unescape ((x.unit behind).take m) = payload.take k :=
    Nal.unescapeFrom_take_escapeFrom 0 payload m _ hm
  obtain ⟨fill, hfill⟩ := x.exists_ofBytes_payload behind
  rw [← hpayload] at hfill
  have hwhole : ofBytes (payload.take k) ++ ofBytes (payload.drop k) =
      x.bits ++ (behind ++ fill) := by
    rw [← ofBytes_append, List.take_append_drop, hfill]
  have hread : outcome readFields (ofBytes (payload.take k) ++ ofBytes (payload.drop k)) =
      (.ok x.fields, behind ++ fill) :=
    outcome_readFields_eq_ok_iff.2 ⟨x, hx, rfl, hwhole⟩
  have hlt : (behind ++ fill).length < (ofBytes (payload.drop k)).length := by
    have hlen := congrArg List.length hwhole
    rw [List.length_append, List.length_append, length_ofBytes,
      List.length_take_of_le (by omega)] at hlen
    omega
  have hfields := (tracks_readFields (simulates_cut _)).eq_truncated_of_lt hread hlt
  rw [parse_eq, hcut, read, outcome_bind]
  rcases hcase : outcome readFields (ofBytes (payload.take k)) with ⟨_ | f, rest⟩
  · rw [hcase] at hfields
    cases hfields
    rfl
  · rw [hcase] at hfields
    cases hfields

/-- **Every set that is written is parsed.** Let the elements of a set be written one after another,
with any bits behind them, packed into bytes and escaped; its scaling lists may be any of the
standard (`IsStandardList.isScalingList`). The unit is parsed as just what the elements say, with the
size of the picture behind the cropping; if there is no picture of a size that fits, that is the
error. The unit begins with what is written up to the byte that holds the last bit of the set, and
cut anywhere in front of this byte it is truncated.

**Proof sketch.** Reading the unit is reading the bits that were written, since escapes are dropped
and the packed bits come back (`begins_unit`), and a unit that begins with a set is parsed as what
the set says (`parse_of_begins`). For the cuts see `parse_of_cut`. -/
theorem parse_unit (hx : x.WellFormed) (behind : List Bool) :
    (x.HasPicture → parse (x.unit behind) = .ok {
      profile := x.profile
      constraint := x.constraint
      level := x.level
      id := x.id
      chromaFormatIdc := x.chromaFormatIdc
      maxRefFrames := x.maxRefFrames
      frameMbsOnly := x.frameMbsOnly
      width := x.pictureWidth.toNat
      height := x.pictureHeight.toNat }) ∧
    (¬x.HasPicture → ∃ d, (d = .croppingWidth ∨ d = .croppingHeight) ∧
      parse (x.unit behind) = .error (.invalid d)) ∧
    x.core behind <+: x.unit behind ∧
    (x.core behind).getLast? = (x.payload behind)[(x.bits.length - 1) / 8]? ∧
    ∀ m < (x.core behind).length, parse ((x.unit behind).take m) = .error .truncated := by
  have hparse : parse (x.unit behind) = x.fields.describe := parse_of_begins (begins_unit hx behind)
  refine ⟨fun h => ?_, fun h => ?_, x.core_prefix_unit behind, x.getLast?_core behind,
    fun m hm => parse_of_cut hx hm⟩
  · rw [hparse]
    exact describe_of_ok
      (width_fields_eq_ok_iff.2 ⟨Int.toNat_of_nonneg h.width_nonneg, h.width_lt⟩)
      (height_fields_eq_ok_iff.2 ⟨Int.toNat_of_nonneg h.height_nonneg, h.height_lt⟩)
  · rw [hparse]
    refine exists_describe_eq_error fun ⟨width, height, hwidth, hheight⟩ => h ?_
    obtain ⟨hw, hwlt⟩ := width_fields_eq_ok_iff.1 hwidth
    obtain ⟨hh, hhlt⟩ := height_fields_eq_ok_iff.1 hheight
    exact ⟨hw ▸ Int.natCast_nonneg _, hwlt, hh ▸ Int.natCast_nonneg _, hhlt⟩

end

/-- The elements of a set for interlaced pictures with two short scaling lists, a cycle of offsets
and a number whose code word needs escapes. -/
def interlacedElements : Elements where
  header := 0x67
  profile := 100
  constraint := 0
  level := 31
  id := 0x3FFFFF
  chroma := some ⟨1, none, 0, 0, false,
    some [some [1, -9], none, none, none, none, none, some [-8], none]⟩
  log2MaxFrameNum := 0
  order := .cycle true (-1) 2 [3, -4]
  maxRefFrames := 4
  gapsInFrameNum := false
  widthInMbs := 19
  heightInMapUnits := 14
  adaptiveFrameField := some true
  direct8x8Inference := true
  crop := some { left := 1, right := 2, bottom := 4 }

lemma wellFormed_interlaced : interlacedElements.WellFormed := by
  have hfirst : IsStandardList 16 8 8 [1, -9] :=
    .delta (by decide) (by decide) (by decide) rfl
      (.delta (by decide) (by decide) (by decide) rfl .ended)
  have hsecond : IsStandardList 64 8 8 [-8] :=
    .delta (by decide) (by decide) (by decide) rfl .ended
  constructor
  case chroma =>
    rintro _ ⟨⟩
    refine ⟨by decide, by decide, by decide, by decide, ?_⟩
    rintro _ ⟨⟩
    refine ⟨rfl, ?_⟩
    simp only [AreScalingLists, Option.mem_def, Option.some.injEq, forall_eq', reduceCtorEq,
      false_implies, implies_true, true_and, and_true]
    exact ⟨hfirst.isScalingList (by decide), hsecond.isScalingList (by decide)⟩
  case crop =>
    rintro _ ⟨⟩
    exact ⟨by decide, by decide, by decide, by decide⟩
  case order => exact ⟨by decide, by decide, by decide, by decide⟩
  all_goals decide

/-- The set for interlaced pictures is parsed from its escaped unit, and found truncated without the
byte that holds its last bits. -/
theorem parse_unit_interlaced :
    let behind := ofNat 10 0x155
    interlacedElements.WellFormed ∧ interlacedElements.HasPicture ∧
    interlacedElements.unit behind =
      [0x67, 0x64, 0x00, 0x1F, 0x00, 0x00, 0x03, 0x02, 0x00, 0x00, 0x03, 0x02, 0xDA, 0x09, 0x82, 0x11,
        0x55, 0x91, 0x98, 0x49, 0x41, 0x41, 0xEE, 0x9C, 0xAA, 0xA8] ∧
    parse (interlacedElements.unit behind) =
      .ok ⟨100, 0, 31, 0x3FFFFF, 1, 4, false, 314, 472⟩ ∧
    24 < (interlacedElements.core behind).length ∧
    parse ((interlacedElements.unit behind).take 24) = .error .truncated := by
  intro behind
  have hpicture : interlacedElements.HasPicture := ⟨by decide, by decide, by decide, by decide⟩
  have hcut : 24 < (interlacedElements.core behind).length := by decide +kernel
  obtain ⟨hparse, -, -, -, htruncated⟩ := parse_unit wellFormed_interlaced behind
  exact ⟨wellFormed_interlaced, hpicture, by decide +kernel, hparse hpicture, hcut,
    htruncated 24 hcut⟩

end LiveMedia.Avc.Sps
