import LiveMedia.Format

set_option autoImplicit false

/-!
# Bitstream errors

Parsers and converters fail with a `MediaError`. Each way in which data can be malformed is a
constructor of `Defect`, and the wording of both is fixed by `Defect.detail` and
`MediaError.message`.

## Main definitions

* `LiveMedia.Defect` — what is wrong with malformed data.
* `LiveMedia.MediaError` — why a read or a conversion failed.
-/

namespace LiveMedia

/-- What is wrong with malformed data. -/
inductive Defect where
  /-- A single read asked for more than 32 bits. -/
  | wideRead
  /-- An Exp-Golomb code has more than 31 leading zeros. -/
  | expGolombOverflow
  /-- A fragment index does not list sorted, disjoint ranges of the payload. -/
  | inconsistentFragments
  /-- A length prefix declares more bytes than remain. -/
  | nalLengthExceeds
  | avccVersion
  /-- A parameter set of an avcC record declares more bytes than remain. -/
  | parameterSetExceeds
  | hvccVersion
  /-- A NAL unit of an hvcC record declares more bytes than remain. -/
  | hvccNalExceeds
  | forbiddenBit
  | notSps
  | croppingWidth
  | croppingHeight
  /-- The object type of an AAC configuration cannot be written in an ADTS header. -/
  | noAdtsProfile
  | adtsSyncword
  /-- A frame does not fit the 13-bit length field of an ADTS header. -/
  | adtsTooLong
  | adtsLayer
  /-- The frame length of an ADTS header is smaller than the header itself. -/
  | adtsTooShort
  | adtsExceedsBuffer
  /-- An ADTS packet whose header is unusable or whose frame is cut short. -/
  | adtsInvalid
  /-- An AAC configuration with an unusable object type, frequency or channel layout. -/
  | invalidAudioConfig
  deriving DecidableEq, Repr

/-- The wording of a defect. -/
def Defect.detail : Defect → String
  | wideRead => "cannot read more than 32 bits at once"
  | expGolombOverflow => "exp-golomb value overflows 32 bits"
  | inconsistentFragments => "fragmentation does not match payload"
  | nalLengthExceeds => "NAL length exceeds remaining bytes"
  | avccVersion => "unsupported avcC version"
  | parameterSetExceeds => "parameter set length exceeds record"
  | hvccVersion => "unsupported hvcC version"
  | hvccNalExceeds => "hvcC NAL length exceeds record"
  | forbiddenBit => "forbidden_zero_bit set"
  | notSps => "not an SPS NAL unit"
  | croppingWidth => "cropping exceeds picture width"
  | croppingHeight => "cropping exceeds picture height"
  | noAdtsProfile => "object type has no ADTS profile"
  | adtsSyncword => "missing ADTS syncword"
  | adtsTooLong => "frame too long for ADTS"
  | adtsLayer => "ADTS layer must be 0"
  | adtsTooShort => "ADTS frame shorter than its header"
  | adtsExceedsBuffer => "ADTS frame exceeds buffer"
  | adtsInvalid => "invalid ADTS header"
  | invalidAudioConfig => "invalid AudioSpecificConfig"

/-- Why a read or a conversion failed. -/
inductive MediaError where
  /-- The bytes end inside a field. -/
  | truncated
  | invalid (defect : Defect)
  /-- The operation is not defined for this framing. -/
  | unsupportedFormat (format : Format)
  /-- A raw AAC unit arrived while its track had no configuration. -/
  | missingConfig
  /-- A sum left the range of the machine word that holds it: the run stops there instead of
  refusing its data. -/
  | overflow
  deriving DecidableEq, Repr

/-- The wording of an error. A run that stops on an overflow reports no text. -/
def MediaError.message : MediaError → String
  | truncated => "truncated bitstream"
  | invalid d => "invalid data: " ++ d.detail
  | unsupportedFormat f => "unsupported bitstream format: " ++ f.name
  | missingConfig => "no AudioSpecificConfig has been observed for this track"
  | overflow => ""

end LiveMedia
