import LiveMedia.Hevc.NalType
import LiveMedia.Record

set_option autoImplicit false

/-!
# The hvcC record

The decoder configuration of an H.265 track in length-prefixed framing: a fixed header, then
arrays of NAL units.

## Main definitions

* `LiveMedia.Hevc.DecoderConfig` — a parsed record.
* `LiveMedia.Hevc.DecoderConfig.parse` — reads a record.
* `LiveMedia.Hevc.toByteStream` — an access unit of the track between start codes.
-/

namespace LiveMedia.Hevc

/-- The decoder configuration of an H.265 track. -/
structure DecoderConfig where
  profileIdc : Nat
  levelIdc : Nat
  /-- The number of bytes of a length prefix. -/
  lengthSize : Nat
  /-- The NAL units of all arrays, in record order. -/
  units : List Bytes
  /-- The record itself. -/
  raw : Bytes
  deriving DecidableEq, Repr

namespace DecoderConfig

/-- The number of bytes in front of the arrays. -/
def headerSize : Nat := 23

/-- The byte at position `i` of a header, as a number. -/
def headerByte (header : Bytes) (i : Nat) : Nat :=
  (header[i]?.getD 0).toNat

/-- An array: its type, the number of its units, and the units. -/
def unitArray : Record.Reader (List Bytes) := do
  let _nalType ← Record.number 1
  let count ← Record.number 2
  Record.times (Record.sized .hvccNalExceeds) count

/-- Reads the fields of the record `raw`. -/
def fields (raw : Bytes) : Record.Reader DecoderConfig := do
  let header ← Record.take headerSize .truncated
  if headerByte header 0 ≠ 1 then
    throw (.invalid .hvccVersion)
  let arrays ← Record.times unitArray (headerByte header 22)
  pure {
    profileIdc := headerByte header 1 % 32
    levelIdc := headerByte header 12
    lengthSize := headerByte header 21 % 4 + 1
    units := arrays.flatten
    raw }

/-- Parses a record. -/
def parse (data : Bytes) : Except MediaError DecoderConfig :=
  (fields data).run' data

/-- The video, sequence and picture parameter sets among the units. -/
def parameterSets (config : DecoderConfig) : List Bytes :=
  config.units.filter NalType.kind.isParameterSet

/-- The parameter sets behind start codes. -/
def toByteStream (config : DecoderConfig) : Bytes :=
  (Nal.Framing.startCode .long).encode config.parameterSets

end DecoderConfig

/-- An access unit behind lengths of `lengthSize` bytes, rewritten with start codes; a random
access point without parameter sets gets those of the configuration. -/
def toByteStream (data : Bytes) (lengthSize : Nat) (config : Option DecoderConfig) :
    Except MediaError Nal.AccessUnit :=
  Nal.AccessUnit.ofLengthPrefixed NalType.kind (.clamp lengthSize)
    (config.elim [] (·.parameterSets)) data

end LiveMedia.Hevc
