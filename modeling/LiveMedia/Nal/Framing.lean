import LiveMedia.Nal.Fragment

set_option autoImplicit false

/-!
# Framings of NAL units

An access unit is a run of NAL units, each behind a header that lets a reader find where the
unit ends: a start code, or the length of the unit.

## Main definitions

* `LiveMedia.Nal.StartCode` — the three- and the four-byte start code.
* `LiveMedia.Nal.Framing` — what stands in front of each unit.
* `LiveMedia.Nal.Framing.frame` — a run of units in a framing, with its fragment index.
-/

namespace LiveMedia.Nal

/-- A start code of a byte stream. -/
inductive StartCode where
  /-- `00 00 01`. -/
  | short
  /-- `00 00 00 01`. -/
  | long
  deriving DecidableEq, Repr

/-- The bytes of a start code. -/
def StartCode.bytes : StartCode → Bytes
  | short => [0, 0, 1]
  | long => [0, 0, 0, 1]

/-- The number of bytes of a start code. -/
def StartCode.size (code : StartCode) : Nat :=
  code.bytes.length

/-- What stands in front of each NAL unit. -/
inductive Framing where
  | startCode (code : StartCode)
  /-- The length of the unit as a big-endian number of `width` bytes. -/
  | lengthPrefix (width : Nat)
  deriving DecidableEq, Repr

/-- A payload with the places of its NAL units. -/
structure IndexedPayload where
  data : Bytes
  index : FragmentIndex
  deriving DecidableEq, Repr

namespace Framing

/-- The header in front of a NAL unit. -/
def header (framing : Framing) (nal : Bytes) : Bytes :=
  match framing with
  | startCode code => code.bytes
  | lengthPrefix width => Bytes.ofNatBE width nal.length

/-- The bytes of a run of units, each behind its header. -/
def encode (framing : Framing) (nals : List Bytes) : Bytes :=
  nals.flatMap fun nal => framing.header nal ++ nal

/-- The places of the units of a run that starts at `offset`. -/
def indexFrom (framing : Framing) : (offset : Nat) → List Bytes → FragmentIndex
  | _, [] => []
  | offset, nal :: rest =>
    let start := offset + (framing.header nal).length
    ⟨start, nal.length⟩ :: indexFrom framing (start + nal.length) rest

/-- A run of units in a framing, and where each of them landed. -/
def frame (framing : Framing) (nals : List Bytes) : IndexedPayload where
  data := framing.encode nals
  index := framing.indexFrom 0 nals

end Framing

end LiveMedia.Nal
