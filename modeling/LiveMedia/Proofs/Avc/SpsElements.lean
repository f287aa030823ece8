import LiveMedia.Avc.Sps
import LiveMedia.Proofs.Bits.Source

set_option autoImplicit false

/-!
# The syntax elements of H.264 sequence parameter sets

A sequence parameter set is a sequence of syntax elements, some of which are there only if others
have a certain value. It is written element by element: fields of fixed width, flags, and
Exp-Golomb values.

## Main definitions

* `LiveMedia.Avc.Sps.Elements` — the elements of a set, up to the cropping rectangle.
* `LiveMedia.Avc.Sps.Elements.WellFormed` — the elements that have to be there are, each with a
  value that can be read.
* `LiveMedia.Avc.Sps.Elements.bits` — the set as it is written.
* `LiveMedia.Avc.Sps.Elements.fields` — what of it tells about the track.
-/

namespace LiveMedia.Avc.Sps

open Bits

/-! ## Syntax elements -/

/-- The code word of a signed Exp-Golomb value. -/
def signedGolomb (k : Int) : List Bool :=
  expGolomb (signedCode k)

/-- A flag that tells whether an element is there, and the element. -/
def optional {α : Type} (code : α → List Bool) : Option α → List Bool
  | none => [false]
  | some a => true :: code a

/-- The deltas of a scaling list of `size` entries behind the scale `last`. Once the scale `next` is
zero there are no more. -/
inductive IsScalingList : (size : Nat) → (last next : Int) → (deltas : List Int) → Prop where
  | full {last next : Int} : IsScalingList 0 last next []
  | ended {size : Nat} {last : Int} : IsScalingList (size + 1) last 0 []
  | delta {size : Nat} {last next delta sum : Int} {deltas : List Int} (hnext : next ≠ 0)
      (hcode : signedCode delta ≤ maxUe) (hsum : scaleSum last delta = .ok sum)
      (hrest : IsScalingList size (if sum % 256 = 0 then last else sum % 256) (sum % 256) deltas) :
      IsScalingList (size + 1) last next (delta :: deltas)

/-- The scaling lists from number `i` on, each of which may be absent. -/
def AreScalingLists : (i : Nat) → List (Option (List Int)) → Prop
  | _, [] => True
  | i, list :: lists =>
    (∀ deltas ∈ list, IsScalingList (scalingListSize i) 8 8 deltas) ∧ AreScalingLists (i + 1) lists

/-- What a set says about chroma, bit depths and scaling. -/
structure ChromaElements where
  formatIdc : Nat
  /-- The flag of separate colour planes, which only sets with chroma format 3 have. -/
  separatePlanes : Option Bool
  bitDepthLuma : Nat
  bitDepthChroma : Nat
  transformBypass : Bool
  /-- The deltas of the scaling lists. -/
  scaling : Option (List (Option (List Int)))

/-- The elements can be written, each with a value that can be read. -/
structure ChromaElements.WellFormed (c : ChromaElements) : Prop where
  formatIdc : c.formatIdc ≤ maxUe
  separatePlanes : c.separatePlanes.isSome ↔ c.formatIdc = 3
  bitDepthLuma : c.bitDepthLuma ≤ maxUe
  bitDepthChroma : c.bitDepthChroma ≤ maxUe
  scaling : ∀ lists ∈ c.scaling, lists.length = (if c.formatIdc = 3 then 12 else 8) ∧
    AreScalingLists 0 lists

/-- The elements as they are written. -/
def ChromaElements.bits (c : ChromaElements) : List Bool :=
  expGolomb c.formatIdc ++ (c.separatePlanes.toList ++ (expGolomb c.bitDepthLuma ++
    (expGolomb c.bitDepthChroma ++ c.transformBypass ::
      optional (List.flatMap (optional (List.flatMap signedGolomb))) c.scaling)))

/-- What a set says about picture order, by the type of the order count. -/
inductive OrderElements where
  | lsb (log2MaxLsb : Nat)
  | cycle (deltaAlwaysZero : Bool) (forNonRef forTopToBottom : Int) (forRefFrames : List Int)
  | other (type : Nat)

/-- The elements can be written, each with a value that can be read. -/
def OrderElements.WellFormed : OrderElements → Prop
  | lsb log2MaxLsb => log2MaxLsb ≤ maxUe
  | cycle _ forNonRef forTopToBottom forRefFrames =>
    signedCode forNonRef ≤ maxUe ∧ signedCode forTopToBottom ≤ maxUe ∧
      forRefFrames.length ≤ maxUe ∧ ∀ k ∈ forRefFrames, signedCode k ≤ maxUe
  | other type => 2 ≤ type ∧ type ≤ maxUe

/-- The elements as they are written. -/
def OrderElements.bits : OrderElements → List Bool
  | lsb log2MaxLsb => expGolomb 0 ++ expGolomb log2MaxLsb
  | cycle deltaAlwaysZero forNonRef forTopToBottom forRefFrames =>
    expGolomb 1 ++ deltaAlwaysZero :: (signedGolomb forNonRef ++ (signedGolomb forTopToBottom ++
      (expGolomb forRefFrames.length ++ forRefFrames.flatMap signedGolomb)))
  | other type => expGolomb type

/-- The offsets have values that can be read. -/
structure Crop.WellFormed (c : Crop) : Prop where
  left : c.left ≤ maxUe
  right : c.right ≤ maxUe
  top : c.top ≤ maxUe
  bottom : c.bottom ≤ maxUe

/-- The offsets as they are written. -/
def Crop.bits (c : Crop) : List Bool :=
  expGolomb c.left ++ (expGolomb c.right ++ (expGolomb c.top ++ expGolomb c.bottom))

/-- The syntax elements of a set in front of the display information. -/
structure Elements where
  /-- The header byte of the unit. -/
  header : Nat
  profile : Nat
  /-- The byte of constraint flags. -/
  constraint : Nat
  level : Nat
  id : Nat
  /-- Sets of certain profiles only have these elements. -/
  chroma : Option ChromaElements
  log2MaxFrameNum : Nat
  order : OrderElements
  maxRefFrames : Nat
  gapsInFrameNum : Bool
  /-- One less than the width in macroblocks. -/
  widthInMbs : Nat
  /-- One less than the height in map units, which are macroblocks or, in a set that admits fields,
  pairs of them. -/
  heightInMapUnits : Nat
  /-- The flag of adaptive frame and field coding, which only sets that admit fields have. -/
  adaptiveFrameField : Option Bool
  direct8x8Inference : Bool
  crop : Option Crop

namespace Elements

/-- The elements can be written, each with a value that can be read. -/
structure WellFormed (x : Elements) : Prop where
  header : x.header < 128
  type : NalType.ofHeader x.header = some .sps
  profile : x.profile < 256
  constraint : x.constraint < 256
  level : x.level < 256
  id : x.id ≤ maxUe
  hasChroma : x.chroma.isSome = hasChromaInfo x.profile
  chroma : ∀ c ∈ x.chroma, c.WellFormed
  log2MaxFrameNum : x.log2MaxFrameNum ≤ maxUe
  order : x.order.WellFormed
  maxRefFrames : x.maxRefFrames ≤ maxUe
  widthInMbs : x.widthInMbs ≤ maxUe
  heightInMapUnits : x.heightInMapUnits ≤ maxUe
  crop : ∀ c ∈ x.crop, c.WellFormed

/-- All pictures are frames. -/
def frameMbsOnly (x : Elements) : Bool :=
  x.adaptiveFrameField.isNone

/-- The chroma format; it is 4:2:0 unless the set tells. -/
def chromaFormatIdc (x : Elements) : Nat :=
  x.chroma.elim 1 (·.formatIdc)

/-- The cropping rectangle; nothing is cropped unless the set tells. -/
def cropping (x : Elements) : Crop :=
  x.crop.getD {}

/-- The set as it is written, from the header byte on. -/
def bits (x : Elements) : List Bool :=
  ofNat 8 x.header ++ (ofNat 8 x.profile ++ (ofNat 8 x.constraint ++ (ofNat 8 x.level ++
    (expGolomb x.id ++ (x.chroma.elim [] (·.bits) ++ (expGolomb x.log2MaxFrameNum ++
      (x.order.bits ++ (expGolomb x.maxRefFrames ++ x.gapsInFrameNum :: (expGolomb x.widthInMbs ++
        (expGolomb x.heightInMapUnits ++ x.frameMbsOnly :: (x.adaptiveFrameField.toList ++
          x.direct8x8Inference :: optional Crop.bits x.crop)))))))))))

/-- The elements that tell about the track. -/
def fields (x : Elements) : Fields where
  profile := x.profile
  constraint := x.constraint
  level := x.level
  id := x.id
  chromaFormatIdc := x.chromaFormatIdc
  maxRefFrames := x.maxRefFrames
  widthInMbs := x.widthInMbs
  heightInMapUnits := x.heightInMapUnits
  frameMbsOnly := x.frameMbsOnly
  crop := x.cropping

end Elements

end LiveMedia.Avc.Sps
