import LiveMedia.Nal.AccessUnit

set_option autoImplicit false

/-!
# H.264 NAL unit types

## Main definitions

* `LiveMedia.Avc.NalType` — the types that the standard gives a meaning to.
* `LiveMedia.Avc.NalType.of` — the type of a NAL unit, from the low five bits of its first byte.
-/

namespace LiveMedia.Avc

/-- The type of an H.264 NAL unit. -/
inductive NalType where
  | slice
  | slicePartA
  | slicePartB
  | slicePartC
  /-- A slice of an instantaneous decoder refresh picture. -/
  | idr
  | sei
  | sps
  | pps
  /-- An access unit delimiter. -/
  | aud
  | endSeq
  | endStream
  | filler
  deriving DecidableEq, Repr

namespace NalType

/-- The type with a given number. -/
def ofCode : Nat → Option NalType
  | 1 => some slice
  | 2 => some slicePartA
  | 3 => some slicePartB
  | 4 => some slicePartC
  | 5 => some idr
  | 6 => some sei
  | 7 => some sps
  | 8 => some pps
  | 9 => some aud
  | 10 => some endSeq
  | 11 => some endStream
  | 12 => some filler
  | _ => none

/-- The type in a header byte. -/
def ofHeader (header : Nat) : Option NalType :=
  ofCode (header % 32)

/-- The type of a NAL unit; an empty one has none. -/
def of (nal : Bytes) : Option NalType :=
  nal.head?.bind fun b => ofHeader b.toNat

/-- The name of a type. -/
def name : NalType → String
  | slice => "Slice"
  | slicePartA => "SlicePartA"
  | slicePartB => "SlicePartB"
  | slicePartC => "SlicePartC"
  | idr => "Idr"
  | sei => "Sei"
  | sps => "Sps"
  | pps => "Pps"
  | aud => "Aud"
  | endSeq => "EndSeq"
  | endStream => "EndStream"
  | filler => "Filler"

/-- Decoding can start at a unit of this type. -/
def isKeyframe (t : NalType) : Bool :=
  t == idr

/-- Units of this type hold a parameter set. -/
def isParameterSet (t : NalType) : Bool :=
  t == sps || t == pps

/-- How access units are put together from H.264 units. -/
def kind : Nal.UnitKind where
  isKeyframe nal := (of nal).any isKeyframe
  isParameterSet nal := (of nal).any isParameterSet

end NalType

end LiveMedia.Avc
