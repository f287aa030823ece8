import LiveMedia.Aac.Converter
import LiveMedia.Avc.DecoderConfig
import LiveMedia.Hevc.DecoderConfig
import LiveMedia.Nal.ByteStream
import LiveMedia.Warning

set_option autoImplicit false

/-!
# Normalizing a track

Every packet of a track leaves in the canonical framing of its codec. Sequence headers set the
decoder configuration of the track and are absorbed.

## Main definitions

* `LiveMedia.Normalizer` — the decoder configurations of one track.
* `LiveMedia.Normalizer.ofInfo` — the state at the declaration of the track.
* `LiveMedia.Normalizer.normalize` — one packet.
-/

namespace LiveMedia

/-- The decoder configurations of one track. -/
structure Normalizer where
  info : TrackInfo
  avc : Option Avc.DecoderConfig := none
  hevc : Option Hevc.DecoderConfig := none
  aac : Aac.Converter := {}
  /-- The last configuration accepted, whatever its codec. -/
  decoderConfig : Option Bytes := none
  deriving DecidableEq, Repr

namespace Normalizer

/-- A step that may fail and changes the configurations of the track. -/
abbrev Step (α : Type) := ExceptT MediaError (StateM Normalizer) α

/-- The width of length prefixes while no configuration tells it. -/
def defaultLengthSize : Nat := 4

/-- A step of the AAC converter, taken by the track. -/
def withConverter {α : Type} (step : Aac.Converter.Step α) : Step α := do
  let s ← get
  let (result, aac) := step.run s.aac
  set { s with aac }
  (result : Except MediaError α)

/-! ## Decoder configurations -/

/-- Parses a configuration and keeps it for its codec. In formats that carry their configuration
in band it is kept as bytes only. -/
def acceptConfig (format : Format) (data : Bytes) : Step Unit :=
  match format with
  | .h264Avcc => do
    let config ← (Avc.DecoderConfig.parse data : Except MediaError Avc.DecoderConfig)
    modify fun s => { s with avc := some config }
  | .h265Hvcc => do
    let config ← (Hevc.DecoderConfig.parse data : Except MediaError Hevc.DecoderConfig)
    modify fun s => { s with hevc := some config }
  | .aacLatm | .aacRaw | .aacAdts => withConverter (Aac.Converter.configure data)
  | _ => pure ()

/-- Sets the decoder configuration of the track; one that cannot be used changes nothing. -/
def applyConfig (format : Format) (data : Bytes) : Step Unit := do
  acceptConfig format data
  modify fun s => { s with decoderConfig := some data }

/-- The state at the declaration of a track. Its configuration is applied; one that cannot be
used is reported and ignored. -/
def ofInfo (info : TrackInfo) : Normalizer × List Warning :=
  match info.extradata with
  | none => ({ info }, [])
  | some data =>
    match (applyConfig info.format data).run { info } with
    | (.ok (), s) => (s, [])
    | (.error e, s) => (s, [.unusableExtradata info.track info.format e])

/-! ## Packets -/

/-- A packet with start codes; its units are found by scanning. -/
def scanned (kind : Nal.UnitKind) (p : Packet) : Packet :=
  let index := Nal.scan p.payload
  { p with fragments := some index, keyframe := (index.units p.payload).any kind.isKeyframe }

/-- A packet replaced by an access unit in canonical framing. -/
def withUnit (p : Packet) (u : Nal.AccessUnit) : Packet :=
  { p with
    payload := u.payload
    fragments := some u.index
    keyframe := u.keyframe
    format := p.format.canonical }

/-- An ADTS packet whose header is usable and whose first frame is whole. -/
def checkedAdts (p : Packet) : Except MediaError Packet := do
  let header ← Aac.AdtsHeader.parse p.payload
  if !header.isValid || decide (p.payload.length < header.frameLength) then
    throw (.invalid .adtsInvalid)
  pure { p with keyframe := true }

/-- Normalizes an access unit. -/
def normalizeUnit (p : Packet) : Step Packet := do
  match p.format with
  | .h264AnnexB => pure (scanned Avc.NalType.kind p)
  | .h265AnnexB => pure (scanned Hevc.NalType.kind p)
  | .h264Avcc =>
    let config := (← get).avc
    let lengthSize := config.elim defaultLengthSize (·.lengthSize)
    let u ← (Avc.toByteStream p.payload lengthSize config : Except MediaError Nal.AccessUnit)
    pure (withUnit p u)
  | .h265Hvcc =>
    let config := (← get).hevc
    let lengthSize := config.elim defaultLengthSize (·.lengthSize)
    let u ← (Hevc.toByteStream p.payload lengthSize config : Except MediaError Nal.AccessUnit)
    pure (withUnit p u)
  | .aacLatm | .aacRaw =>
    let extradata := (← get).info.extradata
    let payload ← withConverter (Aac.Converter.convert .raw p.payload extradata)
    pure { p with payload, format := p.format.canonical, keyframe := true }
  | .aacAdts => (checkedAdts p : Except MediaError Packet)
  | .vp8 | .opus | .unknown => pure { p with fragments := none }

/-- Normalizes one packet; `none` if it was a sequence header and has been absorbed. -/
def normalize (p : Packet) : Step (Option Packet) :=
  match p.kind with
  | .sequenceHeader => do
    applyConfig p.format p.payload
    pure none
  | .endOfSequence => pure (some { p with format := p.format.canonical, fragments := none })
  | .raw => some <$> normalizeUnit p

end Normalizer

end LiveMedia
