import LiveMedia.Proofs.Avc.SpsSyntax
import LiveMedia.Proofs.Bits.Words

set_option autoImplicit false

/-!
# Reading H.264 sequence parameter sets on machine words

The set is read here with every operation on the word that holds its result. One operation can leave
its word, the sum behind the next scale of a scaling list. A build for development reads what is
read on numbers, and stops just where that sum is too large; a release reads the same unless the sum
is too large, and never stops.

## Main definitions

* `LiveMedia.Avc.Sps.onWords` — the reads of a set and the step between scales, on words.
* `LiveMedia.Avc.Sps.parseOn` — an escaped unit is parsed on words.

## Main results

* `LiveMedia.Avc.Sps.nextScaleOn_release` — a release loses nothing of a scale.
* `LiveMedia.Avc.Sps.tracks_readOn` — a set is read on words as it is on numbers.
* `LiveMedia.Avc.Sps.parseOn_dev`, `LiveMedia.Avc.Sps.parseOn_release_of_ne`,
  `LiveMedia.Avc.Sps.parseOn_release_ne` — what the two builds parse.
-/

namespace LiveMedia.Avc.Sps

open Bits

/-! ## The set on words -/

section

variable (build : Build)

/-- The scale behind `last`, in signed words of 32 bits. -/
def nextScaleOn (last delta : Int) : Except MediaError Int := do
  let sum ← build.result .i32 (last + delta)
  let sum ← build.result .i32 (sum + 256)
  pure (sum % 256)

/-- The reads of a set from an escaped unit. -/
def onWords : Reads RbspCursor where
  bit := bitOn build
  skipBit := skipBitOn build
  byte := readByteOn build
  ue := readUeOn build
  se := readSeOn build
  scale := nextScaleOn build

/-- One more, in 32 bits; the largest number there stays as it is. -/
def succOn (n : Nat) : Nat :=
  min (n + 1) 0xFFFFFFFF

/-- A size of `full` samples, less two for each crop unit, in 64 bits; it has to fit in 32. -/
def croppedSizeOn (full cropA cropB : Nat) : Except MediaError (Option Nat) := do
  let units ← build.natural .u64 (cropA + cropB)
  let crop ← build.natural .u64 (2 * units)
  let size : Int := full - crop
  pure (if Word.u64.Holds size ∧ Word.u32.Holds size then some size.toNat else none)

/-- The width of the cropped picture. -/
def widthOn (f : Fields) : Except MediaError Nat := do
  let full ← build.natural .u64 (succOn f.widthInMbs * 16)
  let size ← croppedSizeOn build full f.crop.left f.crop.right
  sizeOr .croppingWidth size

/-- The height of the cropped picture. -/
def heightOn (f : Fields) : Except MediaError Nat := do
  let fieldFactor : Nat := if f.frameMbsOnly then 1 else 2
  let mbs ← build.natural .u64 (fieldFactor * succOn f.heightInMapUnits)
  let full ← build.natural .u64 (mbs * 16)
  let size ← croppedSizeOn build full f.crop.top f.crop.bottom
  sizeOr .croppingHeight size

/-- What the fields say about the track. -/
def describeOn (f : Fields) : Except MediaError Sps := do
  let width ← widthOn build f
  let height ← heightOn build f
  pure {
    profile := f.profile
    constraint := f.constraint
    level := f.level
    id := f.id
    chromaFormatIdc := f.chromaFormatIdc
    maxRefFrames := f.maxRefFrames
    frameMbsOnly := f.frameMbsOnly
    width
    height }

/-- Reads a sequence parameter set. -/
def readOn : Read RbspCursor Sps := do
  let fields ← (onWords build).fields
  (describeOn build fields : Except MediaError Sps)

/-- Parses an escaped NAL unit, header byte included. -/
def parseOn (nal : Bytes) : Except MediaError Sps :=
  (outcome (readOn build) { rest := nal }).1

end

/-! ## The step between scales -/

section

variable {build : Build} {last delta : Int}

/-- A release goes on where a sum is too large. -/
def Lost (build : Build) (e : MediaError) : Prop :=
  build = .release ∧ e = .overflow

lemma nextScaleOn_of_lt (hlow : -0x80000000 ≤ last + delta)
    (h : last + delta + 256 < scaleLimit) :
    nextScaleOn build last delta = .ok ((last + delta + 256) % 256) := by
  unfold scaleLimit at h
  rw [nextScaleOn, Build.result_of_holds (Word.holds_i32.2 (by omega))]
  show (build.result .i32 (last + delta + 256) >>= _) = _
  rw [Build.result_of_holds (Word.holds_i32.2 (by omega))]
  rfl

lemma nextScaleOn_dev_of_ge (h : scaleLimit ≤ last + delta + 256) :
    nextScaleOn .dev last delta = .error .overflow := by
  unfold scaleLimit at h
  unfold nextScaleOn Build.result
  split
  · have hnot : ¬ Word.i32.Holds (last + delta + 256) := by
      rw [Word.holds_i32]
      omega
    show ((if Word.i32.Holds (last + delta + 256) then _ else _ : Except MediaError Int) >>= _) = _
    rw [if_neg hnot]
    rfl
  · rfl

/-- In a release the scale is that of the sum on numbers, since a word that has lost its high bits has
the same remainder. -/
theorem nextScaleOn_release (last delta : Int) :
    nextScaleOn .release last delta = .ok ((last + delta + 256) % 256) := by
  have hresult (k : Int) : ∃ k', Build.release.result .i32 k = .ok k' ∧ k' % 256 = k % 256 := by
    unfold Build.result
    split
    · exact ⟨k, rfl, rfl⟩
    · refine ⟨_, rfl, ?_⟩
      simp only [Word.wrap, Word.least, Word.count]
      omega
  obtain ⟨sum, hsum, hmod⟩ := hresult (last + delta)
  obtain ⟨sum', hsum', hmod'⟩ := hresult (sum + 256)
  rw [nextScaleOn, hsum, ok_bind, hsum', ok_bind, hmod']
  exact congrArg Except.ok (by omega)

/-- One scale is made from another one on words as on numbers, unless the sum is too large. -/
lemma tracks_nextScaleOn (hlast : 0 < last ∧ last < 256)
    (hdelta : -0x7FFFFFFF ≤ delta ∧ delta ≤ 0x7FFFFFFF) :
    Tracks (Lost build) OnWords
      (liftM ((Reads.ofSource RbspCursor).scale last delta) : Read RbspCursor Int)
      (liftM (nextScaleOn build last delta)) := by
  rw [Reads.scale_ofSource]
  split
  · next hfits =>
    rw [nextScaleOn_of_lt (by omega) hfits]
    exact .pure _
  · next hlarge =>
    intro s t h
    cases build with
    | dev =>
      rw [nextScaleOn_dev_of_ge (Int.not_lt.1 hlarge)]
      exact Or.inr ⟨rfl, fun _ h => by cases h⟩
    | release => exact Or.inl ⟨.overflow, ⟨rfl, rfl⟩, rfl⟩

/-- The reads on words are those on numbers. -/
lemma tracked_onWords : Reads.Tracked (Lost build) OnWords
    (fun delta => -0x7FFFFFFF ≤ delta ∧ delta ≤ 0x7FFFFFFF) (fun scale => 0 < scale ∧ scale < 256)
    (Reads.ofSource RbspCursor) (onWords build) where
  bit := tracks_bitOn
  skipBit := tracks_skipBitOn
  byte := tracks_readByteOn
  ue := tracks_readUeOn
  se := tracks_readSeOn
  delta := returns_readSe
  scale := tracks_nextScaleOn
  first := by decide
  next := by
    intro last delta scale _ _ hscale hne
    obtain ⟨sum, -, rfl⟩ := Reads.scale_ofSource_eq_ok_iff.1 hscale
    omega

lemma tracks_fieldsOn : Tracks (Lost build) OnWords readFields (onWords build).fields :=
  tracked_onWords.fields

end

/-! ## The picture size -/

/-- The fields of which the picture size is made have values that can be read. -/
structure Fields.HaveSize (f : Fields) : Prop where
  widthInMbs : f.widthInMbs ≤ maxUe
  heightInMapUnits : f.heightInMapUnits ≤ maxUe
  crop : f.crop.WellFormed

lemma returns_crop : Returns Crop.WellFormed (Reads.ofSource RbspCursor).crop :=
  .bind fun _ => .ite
    (returns_readUe.bind_of fun _ hleft => returns_readUe.bind_of fun _ hright =>
      returns_readUe.bind_of fun _ htop => returns_readUe.bind_of fun _ hbottom =>
        .pure ⟨hleft, hright, htop, hbottom⟩)
    (.pure ⟨Nat.zero_le _, Nat.zero_le _, Nat.zero_le _, Nat.zero_le _⟩)

lemma returns_readFields : Returns Fields.HaveSize (readFields : Read RbspCursor Fields) :=
  .bind fun _ => .bind fun _ => .bind fun _ => .bind fun _ => .bind fun _ => .bind fun _ =>
    .bind fun _ => .bind fun _ => .bind fun _ => returns_readUe.bind_of fun _ hwidth =>
      returns_readUe.bind_of fun _ hheight => .bind fun _ => .bind fun _ =>
        returns_crop.bind_of fun _ hcrop => .pure ⟨hwidth, hheight, hcrop⟩

section

variable {build : Build}

lemma succOn_of_le {n : Nat} (h : n ≤ maxUe) : succOn n = n + 1 := by
  unfold maxUe at h
  unfold succOn
  omega

lemma croppedSizeOn_eq {cropA cropB : Nat} (full : Nat) (ha : cropA ≤ maxUe)
    (hb : cropB ≤ maxUe) :
    croppedSizeOn build full cropA cropB = .ok (croppedSize full cropA cropB) := by
  unfold maxUe at ha hb
  unfold croppedSizeOn croppedSize
  have hunits : build.natural .u64 ((cropA : Int) + cropB) = .ok (cropA + cropB) :=
    Build.natural_of_holds (n := cropA + cropB) (Word.holds_u64.2 (by omega))
  have hcrop : build.natural .u64 (2 * ((cropA + cropB : Nat) : Int)) = .ok (2 * (cropA + cropB)) :=
    Build.natural_of_holds (n := 2 * (cropA + cropB)) (Word.holds_u64.2 (by omega))
  rw [hunits, ok_bind, hcrop, ok_bind]
  generalize 2 * (cropA + cropB) = crop
  have hsize : Word.u64.Holds (full - crop) ∧ Word.u32.Holds (full - crop) ↔
      crop ≤ full ∧ full - crop < sizeSpace := by
    rw [Word.holds_u64, Word.holds_u32, sizeSpace]
    omega
  dsimp only
  split
  · next h =>
    rw [if_pos (hsize.1 h)]
    exact congrArg (fun n => Except.ok (some n)) (by omega)
  · next h =>
    rw [if_neg (mt hsize.2 h)]
    rfl

lemma widthOn_eq {f : Fields} (hf : f.HaveSize) : widthOn build f = f.width := by
  have hle := hf.widthInMbs
  unfold maxUe at hle
  have hfull : build.natural .u64 ((f.widthInMbs + 1 : Nat) * 16) =
      .ok ((f.widthInMbs + 1) * 16) :=
    Build.natural_of_holds (n := (f.widthInMbs + 1) * 16) (Word.holds_u64.2 (by omega))
  rw [widthOn, succOn_of_le hf.widthInMbs, hfull, ok_bind,
    croppedSizeOn_eq _ hf.crop.left hf.crop.right]
  rfl

lemma heightOn_eq {f : Fields} (hf : f.HaveSize) : heightOn build f = f.height := by
  have hle := hf.heightInMapUnits
  unfold maxUe at hle
  rw [heightOn, succOn_of_le hf.heightInMapUnits, Fields.height]
  have hfactor : (if f.frameMbsOnly then 1 else 2 : Nat) ≤ 2 := by
    split <;> omega
  generalize (if f.frameMbsOnly then 1 else 2 : Nat) = factor at hfactor
  have hmul : factor * (f.heightInMapUnits + 1) ≤ 2 * (f.heightInMapUnits + 1) :=
    Nat.mul_le_mul_right _ hfactor
  have hmbs : build.natural .u64 (factor * (f.heightInMapUnits + 1 : Nat)) =
      .ok (factor * (f.heightInMapUnits + 1)) :=
    Build.natural_of_holds (n := factor * (f.heightInMapUnits + 1))
      (Word.holds_u64.2 (by omega))
  have hfull : build.natural .u64 ((factor * (f.heightInMapUnits + 1) : Nat) * 16) =
      .ok (factor * (f.heightInMapUnits + 1) * 16) :=
    Build.natural_of_holds (n := factor * (f.heightInMapUnits + 1) * 16)
      (Word.holds_u64.2 (by omega))
  rw [hmbs, ok_bind, hfull, ok_bind, croppedSizeOn_eq _ hf.crop.top hf.crop.bottom]
  rfl

/-- Pictures of a size that can be read are described on words as on numbers. -/
lemma describeOn_eq {f : Fields} (hf : f.HaveSize) : describeOn build f = f.describe := by
  rw [describeOn, widthOn_eq hf, heightOn_eq hf]
  rfl

/-- A set is read on words as it is on numbers, unless a release goes on where a sum is too
large. -/
theorem tracks_readOn (build : Build) : Tracks (Lost build) OnWords read (readOn build) := by
  refine tracks_fieldsOn.bind_of_post returns_readFields fun f hf => ?_
  rw [describeOn_eq hf]
  exact .liftM _

end

/-! ## A release does not stop -/

section

variable {build : Build} {e : MediaError}

lemma raises_of_nextScaleOn {last delta : Int} (h : nextScaleOn build last delta = .error e) :
    build.Raises e := by
  obtain hsum | ⟨sum, -, h⟩ := error_of_bind h
  · exact raises_of_result hsum
  obtain hsum | ⟨_, -, h⟩ := error_of_bind h
  · exact raises_of_result hsum
  cases h

lemma ne_overflow_of_sizeOr {defect : Defect} {size : Option Nat}
    (h : sizeOr defect size = .error e) : e ≠ .overflow := by
  cases size <;> cases h
  rintro ⟨⟩

lemma raises_of_croppedSizeOn {full cropA cropB : Nat}
    (h : croppedSizeOn build full cropA cropB = .error e) : build.Raises e := by
  obtain hunits | ⟨units, -, h⟩ := error_of_bind h
  · exact raises_of_natural hunits
  obtain hcrop | ⟨crop, -, h⟩ := error_of_bind h
  · exact raises_of_natural hcrop
  cases h

lemma raises_of_widthOn {f : Fields} (h : widthOn build f = .error e) : build.Raises e := by
  obtain hfull | ⟨full, -, h⟩ := error_of_bind h
  · exact raises_of_natural hfull
  obtain hsize | ⟨size, -, h⟩ := error_of_bind h
  · exact raises_of_croppedSizeOn hsize
  exact fun he => absurd he (ne_overflow_of_sizeOr h)

lemma raises_of_heightOn {f : Fields} (h : heightOn build f = .error e) : build.Raises e := by
  obtain hmbs | ⟨mbs, -, h⟩ := error_of_bind h
  · exact raises_of_natural hmbs
  obtain hfull | ⟨full, -, h⟩ := error_of_bind h
  · exact raises_of_natural hfull
  obtain hsize | ⟨size, -, h⟩ := error_of_bind h
  · exact raises_of_croppedSizeOn hsize
  exact fun he => absurd he (ne_overflow_of_sizeOr h)

lemma raises_of_describeOn {f : Fields} (h : describeOn build f = .error e) : build.Raises e := by
  obtain hwidth | ⟨width, -, h⟩ := error_of_bind h
  · exact raises_of_widthOn hwidth
  obtain hheight | ⟨height, -, h⟩ := error_of_bind h
  · exact raises_of_heightOn hheight
  cases h

/-- Over the reads on words only a build for development overflows. -/
lemma failOnly_onWords : Reads.FailOnly build.Raises (onWords build) where
  bit := failsOnly_bitOn
  skipBit := failsOnly_skipBitOn
  byte := failsOnly_readByteOn
  ue := failsOnly_readUeOn
  se := failsOnly_readSeOn
  forbiddenBit := by rintro ⟨⟩
  notSps := by rintro ⟨⟩

lemma failsOnly_readOn (build : Build) : FailsOnly build.Raises (readOn build) :=
  (failOnly_onWords.fields fun _ _ _ => raises_of_nextScaleOn).bind fun _ =>
    .liftM fun _ => raises_of_describeOn

end

/-! ## Parsing on words -/

section

variable {build : Build} {nal : Bytes}

lemma parseOn_eq_or (build : Build) (nal : Bytes) :
    Lost build .overflow ∧ parse nal = .error .overflow ∨ parseOn build nal = parse nal := by
  have hnew : OnWords { rest := nal } { rest := nal } := ⟨Nat.succ_pos 7, rfl⟩
  rcases tracks_readOn build _ _ hnew with ⟨e, ⟨hbuild, rfl⟩, hfail⟩ | ⟨hresult, -⟩
  · exact Or.inl ⟨⟨hbuild, rfl⟩, hfail⟩
  · exact Or.inr hresult.symm

/-- A build for development parses what is parsed on numbers. -/
theorem parseOn_dev (nal : Bytes) : parseOn .dev nal = parse nal :=
  (parseOn_eq_or .dev nal).resolve_left (by rintro ⟨⟨⟨⟩, -⟩, -⟩)

/-- A release parses what is parsed on numbers unless a sum is too large. -/
theorem parseOn_release_of_ne (h : parse nal ≠ .error .overflow) :
    parseOn .release nal = parse nal :=
  (parseOn_eq_or .release nal).resolve_left fun hlost => h hlost.2

/-- A release does not stop at a sum that is too large. -/
theorem parseOn_release_ne (nal : Bytes) : parseOn .release nal ≠ .error .overflow :=
  fun h => by cases failsOnly_readOn .release _ _ h rfl

end

end LiveMedia.Avc.Sps
