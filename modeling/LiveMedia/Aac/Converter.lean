import LiveMedia.Aac.Adts
import LiveMedia.Aac.AudioConfig
import LiveMedia.Packet

set_option autoImplicit false

/-!
# From access units to ADTS frames

A track that delivers bare AAC units tells its configuration once; the converter keeps the last
usable one and writes it into the header of every frame.

## Main definitions

* `LiveMedia.Aac.Converter` — the configuration in force.
* `LiveMedia.Aac.Converter.convert` — one packet of the track.
-/

namespace LiveMedia.Aac

/-- The configuration in force on a track. -/
structure Converter where
  config : Option AudioConfig := none
  deriving DecidableEq, Repr

/-- The frame that holds an access unit under a configuration. -/
def AudioConfig.frame (config : AudioConfig) (payload : Bytes) : Except MediaError Bytes := do
  let profile ← config.adtsProfile
  adtsFrame profile config.frequencyIndex config.channelConfig payload

namespace Converter

/-- A step that may fail and changes the configuration in force. -/
abbrev Step (α : Type) := ExceptT MediaError (StateM Converter) α

/-- Puts a configuration in force; an unusable one is refused and the old one stays. -/
def setConfig (config : AudioConfig) : Step Unit :=
  if config.isValid then
    set { config := some config : Converter }
  else
    throw (.invalid .invalidAudioConfig)

/-- Parses a configuration and puts it in force. -/
def configure (data : Bytes) : Step Unit := do
  let config ← (AudioConfig.parse data : Except MediaError AudioConfig)
  setConfig config

/-- Converts one packet. A sequence header sets the configuration, from `extradata` if that is
given, and passes unchanged. An access unit is put into a frame; while no configuration is in
force, `extradata` is tried first. -/
def convert (kind : PacketKind) (payload : Bytes) (extradata : Option Bytes) : Step Bytes :=
  match kind with
  | .sequenceHeader => do
    configure (extradata.getD payload)
    pure payload
  | .raw => do
    if (← get).config.isNone then
      if let some data := extradata then
        configure data
    match (← get).config with
    | none => throw .missingConfig
    | some config => (config.frame payload : Except MediaError Bytes)
  | .endOfSequence => pure payload

end Converter

end LiveMedia.Aac
