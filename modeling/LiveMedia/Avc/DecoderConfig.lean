import LiveMedia.Avc.NalType
import LiveMedia.Record

set_option autoImplicit false

/-!
# The avcC record

The decoder configuration of an H.264 track in length-prefixed framing: a version byte, the
profile, compatibility and level bytes, the width of the length prefixes, then the sequence and
the picture parameter sets.

## Main definitions

* `LiveMedia.Avc.DecoderConfig` — a parsed record.
* `LiveMedia.Avc.DecoderConfig.parse` — reads a record.
* `LiveMedia.Avc.toByteStream` — an access unit of the track between start codes.
-/

namespace LiveMedia.Avc

/-- The decoder configuration of an H.264 track. -/
structure DecoderConfig where
  profile : UInt8
  compatibility : UInt8
  level : UInt8
  /-- The number of bytes of a length prefix. -/
  lengthSize : Nat
  sps : List Bytes
  pps : List Bytes
  /-- The record itself. -/
  raw : Bytes
  deriving DecidableEq, Repr

namespace DecoderConfig

/-- The fewest bytes of a record: six fixed ones and the second count. -/
def minSize : Nat := 7

/-- A counted list of parameter sets; the count is a byte taken modulo `modulus`. -/
def parameterSets (modulus : Nat) : Record.Reader (List Bytes) := do
  let count ← Record.number 1
  Record.times (Record.sized .parameterSetExceeds) (count % modulus)

/-- Reads the fields of the record `raw`. -/
def fields (raw : Bytes) : Record.Reader DecoderConfig := do
  let version ← Record.number 1
  if version ≠ 1 then
    throw (.invalid .avccVersion)
  let profile ← Record.number 1
  let compatibility ← Record.number 1
  let level ← Record.number 1
  let lengthByte ← Record.number 1
  let sps ← parameterSets 32
  let pps ← parameterSets 256
  pure {
    profile := UInt8.ofNat profile
    compatibility := UInt8.ofNat compatibility
    level := UInt8.ofNat level
    lengthSize := lengthByte % 4 + 1
    sps, pps, raw }

/-- Parses a record. -/
def parse (data : Bytes) : Except MediaError DecoderConfig := do
  if data.length < minSize then
    throw .truncated
  (fields data).run' data

/-- The name of the profile. -/
def profileName (config : DecoderConfig) : String :=
  match config.profile.toNat with
  | 66 => "Baseline"
  | 77 => "Main"
  | 88 => "Extended"
  | 100 => "High"
  | 110 => "High 10"
  | 122 => "High 4:2:2"
  | 244 => "High 4:4:4"
  | _ => "Unknown"

/-- The level as a decimal number with one place. -/
def levelString (config : DecoderConfig) : String :=
  toString (config.level.toNat / 10) ++ "." ++ toString (config.level.toNat % 10)

/-- Profile, compatibility and level in hexadecimal, as codec strings have them. -/
def profileString (config : DecoderConfig) : String :=
  Bytes.toHex [config.profile, config.compatibility, config.level]

/-- All sequence parameter sets, then all picture parameter sets. -/
def allSets (config : DecoderConfig) : List Bytes :=
  config.sps ++ config.pps

/-- The parameter sets behind start codes. -/
def toByteStream (config : DecoderConfig) : Bytes :=
  (Nal.Framing.startCode .long).encode config.allSets

end DecoderConfig

/-- An access unit behind lengths of `lengthSize` bytes, rewritten with start codes; a keyframe
without parameter sets gets those of the configuration. -/
def toByteStream (data : Bytes) (lengthSize : Nat) (config : Option DecoderConfig) :
    Except MediaError Nal.AccessUnit :=
  Nal.AccessUnit.ofLengthPrefixed NalType.kind (.clamp lengthSize)
    (config.elim [] (·.allSets)) data

end LiveMedia.Avc
