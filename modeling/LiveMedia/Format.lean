set_option autoImplicit false

/-!
# Payload formats

A packet says how the bytes of its payload are framed. Tracks are normalized to one canonical
framing per codec: start codes for H.264 and H.265, ADTS frames for AAC.

## Main definitions

* `LiveMedia.Format` — the framings a track can be delivered in.
* `LiveMedia.Format.canonical` — the framing a normalized track leaves in.
-/

namespace LiveMedia

/-- The framing of the bytes in a payload. -/
inductive Format where
  /-- H.264 NAL units between start codes. -/
  | h264AnnexB
  /-- H.264 NAL units behind big-endian lengths. -/
  | h264Avcc
  /-- H.265 NAL units between start codes. -/
  | h265AnnexB
  /-- H.265 NAL units behind big-endian lengths. -/
  | h265Hvcc
  /-- AAC frames behind ADTS headers. -/
  | aacAdts
  /-- AAC access units with an out-of-band configuration. -/
  | aacLatm
  /-- Bare AAC raw data blocks. -/
  | aacRaw
  | vp8
  | opus
  | unknown
  deriving DecidableEq, Repr, Inhabited

namespace Format

/-- The name a format has in messages. -/
def name : Format → String
  | h264AnnexB => "H264AnnexB"
  | h264Avcc => "H264Avcc"
  | h265AnnexB => "H265AnnexB"
  | h265Hvcc => "H265Hvcc"
  | aacAdts => "AacAdts"
  | aacLatm => "AacLatm"
  | aacRaw => "AacRaw"
  | vp8 => "Vp8"
  | opus => "Opus"
  | unknown => "Unknown"

/-- Every format. -/
def all : List Format :=
  [h264AnnexB, h264Avcc, h265AnnexB, h265Hvcc, aacAdts, aacLatm, aacRaw, vp8, opus, unknown]

/-- Payloads of this format are made of NAL units. -/
def carriesNalUnits : Format → Bool
  | h264AnnexB | h264Avcc | h265AnnexB | h265Hvcc => true
  | _ => false

/-- Payloads of this format are AAC. -/
def isAac : Format → Bool
  | aacAdts | aacLatm | aacRaw => true
  | _ => false

/-- Payloads of this format are H.265. -/
def isH265 : Format → Bool
  | h265AnnexB | h265Hvcc => true
  | _ => false

/-- The framing that a normalized track of this format emits. -/
def canonical : Format → Format
  | h264Avcc => h264AnnexB
  | h265Hvcc => h265AnnexB
  | aacLatm | aacRaw => aacAdts
  | f => f

@[simp]
theorem canonical_canonical (f : Format) : f.canonical.canonical = f.canonical := by
  cases f <;> rfl

end Format

end LiveMedia
