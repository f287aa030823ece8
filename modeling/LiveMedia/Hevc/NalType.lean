import LiveMedia.Nal.AccessUnit

set_option autoImplicit false

/-!
# H.265 NAL unit types

## Main definitions

* `LiveMedia.Hevc.NalType` — the types that matter for delivery.
* `LiveMedia.Hevc.NalType.of` — the type of a NAL unit, from the six bits behind the first one.
-/

namespace LiveMedia.Hevc

/-- The type of an H.265 NAL unit. -/
inductive NalType where
  /-- A slice of a picture that is no random access point, types 0 to 15. -/
  | slice (code : Nat)
  | blaWLp
  | blaWRadl
  | blaNLp
  | idrWRadl
  | idrNLp
  | cra
  /-- The reserved random access types 22 and 23. -/
  | reservedIrap (code : Nat)
  | vps
  | sps
  | pps
  /-- An access unit delimiter. -/
  | aud
  | endOfSequence
  | endOfBitstream
  | filler
  | prefixSei
  | suffixSei
  /-- All other types, reserved or unspecified. -/
  | other (code : Nat)
  deriving DecidableEq, Repr

namespace NalType

/-- The number of bytes of a NAL unit header. -/
def headerSize : Nat := 2

/-- The type with a given number. -/
def ofCode (code : Nat) : NalType :=
  if code ≤ 15 then slice code
  else if code = 22 ∨ code = 23 then reservedIrap code
  else
    match code with
    | 16 => blaWLp
    | 17 => blaWRadl
    | 18 => blaNLp
    | 19 => idrWRadl
    | 20 => idrNLp
    | 21 => cra
    | 32 => vps
    | 33 => sps
    | 34 => pps
    | 35 => aud
    | 36 => endOfSequence
    | 37 => endOfBitstream
    | 38 => filler
    | 39 => prefixSei
    | 40 => suffixSei
    | code => other code

/-- The type in the first header byte. -/
def ofHeader (b : UInt8) : NalType :=
  ofCode (b.toNat / 2 % 64)

/-- The type of a NAL unit; one without a whole header has none. -/
def of : Bytes → Option NalType
  | b :: _ :: _ => some (ofHeader b)
  | _ => none

/-- The name of a type. -/
def name : NalType → String
  | slice code => "Slice(" ++ toString code ++ ")"
  | blaWLp => "BlaWLp"
  | blaWRadl => "BlaWRadl"
  | blaNLp => "BlaNLp"
  | idrWRadl => "IdrWRadl"
  | idrNLp => "IdrNLp"
  | cra => "Cra"
  | reservedIrap code => "ReservedIrap(" ++ toString code ++ ")"
  | vps => "Vps"
  | sps => "Sps"
  | pps => "Pps"
  | aud => "Aud"
  | endOfSequence => "EndOfSequence"
  | endOfBitstream => "EndOfBitstream"
  | filler => "Filler"
  | prefixSei => "PrefixSei"
  | suffixSei => "SuffixSei"
  | other code => "Other(" ++ toString code ++ ")"

/-- Decoding can start at a unit of this type: an intra random access point, types 16 to 23. -/
def isKeyframe : NalType → Bool
  | blaWLp | blaWRadl | blaNLp | idrWRadl | idrNLp | cra | reservedIrap _ => true
  | _ => false

/-- Units of this type hold a parameter set. -/
def isParameterSet : NalType → Bool
  | vps | sps | pps => true
  | _ => false

/-- How access units are put together from H.265 units. -/
def kind : Nal.UnitKind where
  isKeyframe nal := (of nal).any isKeyframe
  isParameterSet nal := (of nal).any isParameterSet

end NalType

end LiveMedia.Hevc
