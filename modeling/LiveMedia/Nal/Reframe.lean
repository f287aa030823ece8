import LiveMedia.Nal.ByteStream
import LiveMedia.Nal.Emulation
import LiveMedia.Nal.LengthPrefix

set_option autoImplicit false

/-!
# Changing the framing of NAL units

Every conversion returns the new buffer with the index of the units in it. Lengths are always
written in four bytes.

## Main definitions

* `LiveMedia.Nal.lengthPrefixedOfByteStream`, `LiveMedia.Nal.byteStreamOfLengthPrefixed` — from
  start codes to lengths and back.
* `LiveMedia.Nal.lengthPrefixedOfFragments` — from a known index, without a new scan.
* `LiveMedia.Nal.insertNal` — one more unit at the end.
-/

namespace LiveMedia.Nal

/-- The framing of every length-prefixed output. -/
def lengthFraming : Framing :=
  .lengthPrefix PrefixWidth.four.bytes

/-- A byte stream with lengths for start codes. Units without a byte are left out. -/
def lengthPrefixedOfByteStream (data : Bytes) : IndexedPayload :=
  lengthFraming.frame (((scan data).units data).filter (!·.isEmpty))

/-- A length-prefixed buffer with four-byte start codes for lengths. -/
def byteStreamOfLengthPrefixed (data : Bytes) : Except MediaError IndexedPayload := do
  let nals ← readLengthPrefixed .four data
  pure ((Framing.startCode .long).frame nals)

/-- The units of a payload, if the index fits it. -/
def indexedUnits (data : Bytes) (index : FragmentIndex) : Except MediaError (List Bytes) := do
  if ← index.checkConsistent data.length then
    pure (index.units data)
  else
    throw (.invalid .inconsistentFragments)

/-- The units at known places of a payload, behind lengths. -/
def lengthPrefixedOfFragments (data : Bytes) (index : FragmentIndex) :
    Except MediaError IndexedPayload := do
  let nals ← indexedUnits data index
  pure (lengthFraming.frame nals)

/-- The framing in which `insertNal` writes a target format. Start codes are three bytes wide
if the first unit of the payload stands at offset three. -/
def insertFraming (index : FragmentIndex) : Format → Except MediaError Framing
  | .h264AnnexB | .h265AnnexB =>
    .ok (.startCode (if index.head?.any (·.offset == StartCode.short.size) then .short else .long))
  | .h264Avcc => .ok lengthFraming
  | format => .error (.unsupportedFormat format)

/-- The units of a payload in the framing of `target`, followed by `nal` in escaped form. -/
def insertNal (data : Bytes) (index : FragmentIndex) (nal : Bytes) (target : Format) :
    Except MediaError IndexedPayload := do
  let framing ← insertFraming index target
  let nals ← indexedUnits data index
  pure (framing.frame (nals ++ [escape nal]))

end LiveMedia.Nal
