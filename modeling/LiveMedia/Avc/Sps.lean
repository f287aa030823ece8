import LiveMedia.Avc.DecoderConfig
import LiveMedia.Bits.Rbsp

set_option autoImplicit false

/-!
# H.264 sequence parameter sets

A sequence parameter set describes the pictures of a track. Only the part in front of the
optional display information is read. Two samples are cropped per crop unit in both directions.

The syntax of a set does not depend on how its bits, bytes and values are read, nor on how one scale
is made from another one: it is written once over any such `Reads`.

## Main definitions

* `LiveMedia.Avc.Sps` — what a set says about the track.
* `LiveMedia.Avc.Sps.Fields` — the elements of a set that tell about the track.
* `LiveMedia.Avc.Sps.Reads` — reads of bits, bytes and values, and the step between scales.
* `LiveMedia.Avc.Sps.Reads.fields` — the fields of a set, over any reads.
* `LiveMedia.Avc.Sps.Reads.ofSource` — the reads of a bit source.
* `LiveMedia.Avc.Sps.read` — reads a set from a bit source.
* `LiveMedia.Avc.Sps.parse` — reads them from an escaped NAL unit.
-/

namespace LiveMedia.Avc

open Bits

/-- The fields of a sequence parameter set that describe a track. -/
structure Sps where
  profile : Nat
  /-- The byte of constraint flags. -/
  constraint : Nat
  level : Nat
  id : Nat
  chromaFormatIdc : Nat
  maxRefFrames : Nat
  frameMbsOnly : Bool
  width : Nat
  height : Nat
  deriving DecidableEq, Repr

namespace Sps

/-! ## Scales, profiles and cropping -/

/-- The profiles whose parameter sets tell the chroma format and the bit depths. -/
def hasChromaInfo (profile : Nat) : Bool :=
  [44, 83, 86, 100, 110, 118, 122, 128, 244].contains profile

/-- One past the largest sum that the scale accumulator, a signed 32-bit word, can hold. -/
def scaleLimit : Int := 0x80000000

/-- The sum behind the next scale; it is taken modulo 256 afterwards. -/
def scaleSum (last delta : Int) : Except MediaError Int :=
  let sum := last + delta + 256
  if sum < scaleLimit then .ok sum else .error .overflow

/-- The number of entries of the scaling list number `i`. -/
def scalingListSize (i : Nat) : Nat :=
  if i < 6 then 16 else 64

/-- The offsets of the cropping rectangle, in crop units. -/
structure Crop where
  left : Nat := 0
  right : Nat := 0
  top : Nat := 0
  bottom : Nat := 0
  deriving DecidableEq, Repr

/-! ## Picture size -/

/-- The side of a macroblock in samples. -/
def macroblockSize : Nat := 16

/-- The number of picture sizes that a 32-bit word can hold. -/
def sizeSpace : Nat := 0x100000000

/-- A size of `full` samples, less two for each crop unit; it has to fit in 32 bits. -/
def croppedSize (full cropA cropB : Nat) : Option Nat :=
  let crop := 2 * (cropA + cropB)
  if crop ≤ full ∧ full - crop < sizeSpace then some (full - crop) else none

/-- A size or the defect of its absence. -/
def sizeOr (defect : Defect) : Option Nat → Except MediaError Nat
  | some size => .ok size
  | none => .error (.invalid defect)

/-- The elements of a set that tell about the track. -/
structure Fields where
  profile : Nat
  constraint : Nat
  level : Nat
  id : Nat
  chromaFormatIdc : Nat
  maxRefFrames : Nat
  /-- One less than the width in macroblocks. -/
  widthInMbs : Nat
  /-- One less than the height in map units: macroblocks, or pairs of them where pictures may be
  fields. -/
  heightInMapUnits : Nat
  frameMbsOnly : Bool
  crop : Crop
  deriving DecidableEq, Repr

namespace Fields

/-- The width of the cropped picture. -/
def width (f : Fields) : Except MediaError Nat :=
  sizeOr .croppingWidth
    (croppedSize ((f.widthInMbs + 1) * macroblockSize) f.crop.left f.crop.right)

/-- The height of the cropped picture. -/
def height (f : Fields) : Except MediaError Nat :=
  let fieldFactor := if f.frameMbsOnly then 1 else 2
  sizeOr .croppingHeight
    (croppedSize (fieldFactor * (f.heightInMapUnits + 1) * macroblockSize) f.crop.top f.crop.bottom)

/-- What the fields say about the track. -/
def describe (f : Fields) : Except MediaError Sps := do
  let width ← f.width
  let height ← f.height
  pure {
    profile := f.profile
    constraint := f.constraint
    level := f.level
    id := f.id
    chromaFormatIdc := f.chromaFormatIdc
    maxRefFrames := f.maxRefFrames
    frameMbsOnly := f.frameMbsOnly
    width
    height }

end Fields

/-! ## The syntax -/

/-- What the syntax of a set is made of. -/
structure Reads (σ : Type) where
  bit : Read σ Bool
  skipBit : Read σ Unit
  byte : Read σ Nat
  ue : Read σ Nat
  se : Read σ Int
  /-- The scale behind `last`. -/
  scale (last delta : Int) : Except MediaError Int

namespace Reads

section

variable {σ : Type} (r : Reads σ)

/-- Skips the deltas of a scaling list of `size` entries. A scale of zero ends the list. -/
def scalingList : (size : Nat) → (last next : Int) → Read σ Unit
  | 0, _, _ => pure ()
  | size + 1, last, next =>
    if next = 0 then
      pure ()
    else do
      let delta ← r.se
      let scale ← (r.scale last delta : Except MediaError Int)
      scalingList size (if scale = 0 then last else scale) scale

/-- Skips `count` optional scaling lists from number `i` on. -/
def scalingLists : (i count : Nat) → Read σ Unit
  | _, 0 => pure ()
  | i, count + 1 => do
    if ← r.bit then
      r.scalingList (scalingListSize i) 8 8
    scalingLists (i + 1) count

/-- Skips `count` signed values. -/
def signed : (count : Nat) → Read σ Unit
  | 0 => pure ()
  | count + 1 => do
    let _ ← r.se
    signed count

/-- Reads the header byte, which has to be that of a sequence parameter set. -/
def header : Read σ Unit := do
  let header ← r.byte
  if 128 ≤ header then
    throw (.invalid .forbiddenBit)
  else if NalType.ofHeader header ≠ some .sps then
    throw (.invalid .notSps)
  else
    pure ()

/-- Reads the chroma format, then skips the bit depths and the scaling matrix. -/
def chroma : Read σ Nat := do
  let chromaFormatIdc ← r.ue
  if chromaFormatIdc = 3 then
    -- separate_colour_plane_flag
    r.skipBit
  let _bitDepthLuma ← r.ue
  let _bitDepthChroma ← r.ue
  let _transformBypass ← r.bit
  if ← r.bit then
    r.scalingLists 0 (if chromaFormatIdc = 3 then 12 else 8)
  pure chromaFormatIdc

/-- Reads the chroma format; it is 4:2:0 for the profiles that do not tell. -/
def chromaFormat (profile : Nat) : Read σ Nat :=
  if hasChromaInfo profile then r.chroma else pure 1

/-- Skips what the set says about picture order. -/
def pictureOrder : Read σ Unit := do
  let _log2MaxFrameNum ← r.ue
  match ← r.ue with
  | 0 =>
    let _log2MaxOrderLsb ← r.ue
  | 1 =>
    let _deltaAlwaysZero ← r.bit
    let _offsetForNonRef ← r.se
    let _offsetForTopToBottom ← r.se
    let cycle ← r.ue
    r.signed cycle
  | _ => pure ()

/-- Reads whether all pictures are frames; only otherwise a flag about fields follows. -/
def frameMbsOnly : Read σ Bool := do
  let frameMbsOnly ← r.bit
  if frameMbsOnly then
    pure true
  else do
    let _adaptiveFrameField ← r.bit
    pure false

/-- Reads the optional cropping rectangle. -/
def crop : Read σ Crop := do
  if ← r.bit then
    let left ← r.ue
    let right ← r.ue
    let top ← r.ue
    let bottom ← r.ue
    pure { left, right, top, bottom }
  else
    pure {}

/-- What is behind the chroma format, as the elements that tell about the track. -/
def fieldsBehind (profile constraint level id chromaFormatIdc : Nat) : Read σ Fields := do
  r.pictureOrder
  let maxRefFrames ← r.ue
  let _gapsInFrameNum ← r.bit
  let widthInMbs ← r.ue
  let heightInMapUnits ← r.ue
  let frameMbsOnly ← r.frameMbsOnly
  let _direct8x8Inference ← r.bit
  let crop ← r.crop
  pure {
    profile, constraint, level, id, chromaFormatIdc, maxRefFrames, widthInMbs, heightInMapUnits
    frameMbsOnly, crop }

/-- Reads the fields of a sequence parameter set, header byte included. -/
def fields : Read σ Fields := do
  r.header
  let profile ← r.byte
  let constraint ← r.byte
  let level ← r.byte
  let id ← r.ue
  let chromaFormatIdc ← r.chromaFormat profile
  r.fieldsBehind profile constraint level id chromaFormatIdc

end

end Reads

section

variable (σ : Type) [BitSource σ]

/-- The reads of a bit source. -/
def Reads.ofSource : Reads σ where
  bit := readBit
  skipBit := skipBits 1
  byte := readBits 8
  ue := readUe
  se := readSe
  scale last delta := (· % 256) <$> scaleSum last delta

end

section

variable {σ : Type} [BitSource σ]

/-- Reads the fields of a sequence parameter set from a bit source. -/
def readFields : Read σ Fields :=
  (Reads.ofSource σ).fields

/-- Reads a sequence parameter set. -/
def read : Read σ Sps := do
  let fields ← readFields
  (fields.describe : Except MediaError Sps)

end

/-- Parses an escaped NAL unit, header byte included. -/
def parse (nal : Bytes) : Except MediaError Sps :=
  (read.run { rest := nal : RbspCursor }).1

end Sps

/-- The first sequence parameter set of a record, parsed; `none` if there is none. -/
def DecoderConfig.firstSps (config : DecoderConfig) : Option (Except MediaError Sps) :=
  config.sps.head?.map Sps.parse

end LiveMedia.Avc
