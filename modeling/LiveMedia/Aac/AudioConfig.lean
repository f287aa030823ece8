import LiveMedia.Aac.Frequency
import LiveMedia.Bits.Cursor

set_option autoImplicit false

/-!
# AAC configurations

An AudioSpecificConfig tells the object type, the sampling frequency and the channel layout of
an AAC track. High-efficiency variants wrap the configuration of a core codec.

## Main definitions

* `LiveMedia.Aac.AudioConfig` — a parsed configuration.
* `LiveMedia.Aac.AudioConfig.parse` — reads a configuration.
* `LiveMedia.Aac.AudioConfig.isValid` — object type, frequency and channels are usable.
* `LiveMedia.Aac.AudioConfig.adtsProfile` — the profile in the headers of its frames.
* `LiveMedia.Aac.serialize` — the two-byte form of a configuration.
-/

namespace LiveMedia.Aac

open Bits

/-! ## Object types -/

/-- The object type of spectral band replication. -/
def sbrType : Nat := 5

/-- The object type of parametric stereo. -/
def psType : Nat := 29

/-- The object type of error-resilient bit-sliced coding. -/
def bsacType : Nat := 22

/-- The object type of error-resilient low delay coding. -/
def lowDelayType : Nat := 23

/-- The object type wraps the configuration of a core codec. -/
def isExtension (objectType : Nat) : Bool :=
  objectType == sbrType || objectType == psType

/-- The named profiles. -/
inductive Profile where
  | main
  | lowComplexity
  | scalableSampleRate
  | longTermPrediction
  | highEfficiency
  | scalable
  | lowDelay
  | highEfficiencyV2
  deriving DecidableEq, Repr

namespace Profile

/-- The profile of an object type. -/
def ofObjectType : Nat → Option Profile
  | 1 => some main
  | 2 => some lowComplexity
  | 3 => some scalableSampleRate
  | 4 => some longTermPrediction
  | 5 => some highEfficiency
  | 6 => some scalable
  | 23 => some lowDelay
  | 29 => some highEfficiencyV2
  | _ => none

/-- The name of a profile. -/
def name : Profile → String
  | main => "AAC Main"
  | lowComplexity => "AAC LC"
  | scalableSampleRate => "AAC SSR"
  | longTermPrediction => "AAC LTP"
  | highEfficiency => "HE-AAC"
  | scalable => "AAC Scalable"
  | lowDelay => "AAC LD"
  | highEfficiencyV2 => "HE-AAC v2"

end Profile

/-! ## Configurations -/

/-- The configuration of an AAC track. -/
structure AudioConfig where
  /-- The object type of the core codec. -/
  objectType : Nat
  /-- The object type of the high-efficiency variant around it. -/
  extensionType : Option Nat
  /-- The frequency index as written. -/
  rateIndex : Nat
  /-- The frequency in Hz. -/
  rate : Nat
  channelConfig : Nat
  /-- The number of samples of a frame. -/
  frameLength : Nat
  /-- The configuration as written. -/
  raw : Bytes
  deriving DecidableEq, Repr

section

variable {σ : Type} [BitSource σ]

/-- An object type: five bits, or an escape and six more. -/
def readObjectType : Read σ Nat := do
  let objectType ← readBits 5
  if objectType = 31 then
    let extended ← readBits 6
    pure (32 + extended)
  else
    pure objectType

/-- A frequency index and the frequency it stands for; an index outside the table stands for
zero. -/
def readFrequency : Read σ (Nat × Nat) := do
  let index ← readBits 4
  if index = explicitIndex then
    let rate ← readBits 24
    pure (index, rate)
  else
    pure (index, (samplingFrequency? index).getD 0)

/-- The number of samples of a frame, by object type and by the frame length flag. -/
def samplesPerFrame (objectType : Nat) (short : Bool) : Nat :=
  if objectType = lowDelayType then
    if short then 480 else 512
  else if objectType = 3 then
    256
  else
    if short then 960 else 1024

/-- The number of samples of a frame when nothing else is said. -/
def defaultFrameLength : Nat := 1024

/-- The object types whose configuration ends in a general audio part. -/
def hasGeneralAudio (objectType : Nat) : Bool :=
  [1, 2, 3, 4, 6, 7, 17, 19, 20, 21, 22, 23].contains objectType

/-- Reads the general audio part and returns the number of samples of a frame. -/
def readGeneralAudio (objectType : Nat) : Read σ Nat := do
  let short ← readBit
  if ← readBit then
    let _coreCoderDelay ← readBits 14
  let extended ← readBit
  if objectType = 6 ∨ objectType = 20 then
    let _layer ← readBits 3
  if extended then
    if objectType = bsacType then
      let _subFrames ← readBits 5
      let _layerLength ← readBits 11
    if [17, 19, 20, 23].contains objectType then
      skipBits 3
    let _extensionFlag3 ← readBit
  pure (samplesPerFrame objectType short)

/-- Reads the core object type behind the extension `objectType`. -/
def readCoreType : Read σ Nat := do
  let _extensionRate ← readFrequency
  let objectType ← readObjectType
  if objectType = bsacType then
    let _extensionChannels ← readBits 4
  pure objectType

/-- Reads the configuration `raw`. The general audio part may be cut short; the frame length is
the default then. -/
def AudioConfig.read (raw : Bytes) : Read σ AudioConfig := do
  let outerType ← readObjectType
  let (rateIndex, rate) ← readFrequency
  let channelConfig ← readBits 4
  let objectType ← if isExtension outerType then readCoreType else pure outerType
  let frameLength ←
    if hasGeneralAudio objectType then
      tryCatch (readGeneralAudio objectType) fun _ => pure defaultFrameLength
    else
      pure defaultFrameLength
  pure {
    objectType
    extensionType := if isExtension outerType then some outerType else none
    rateIndex, rate, channelConfig, frameLength, raw }

end

namespace AudioConfig

/-- The fewest bytes of a configuration. -/
def minSize : Nat := 2

/-- Parses a configuration. -/
def parse (data : Bytes) : Except MediaError AudioConfig :=
  if data.length < minSize then
    .error .truncated
  else
    ((read data).run { data := data : BitCursor }).1

/-- The frequency index in the headers of the track's frames: the one written, or the nearest
one to a frequency that is spelled out. -/
def frequencyIndex (config : AudioConfig) : Nat :=
  if config.rateIndex = explicitIndex then nearestIndex config.rate else config.rateIndex

/-- Object type, frequency and channel layout are usable. -/
def isValid (config : AudioConfig) : Bool :=
  config.objectType != 0 && decide (config.frequencyIndex < samplingFrequencies.length) &&
    decide (config.channelConfig < 15)

/-- The object type that names the codec: the variant, or else the core. -/
def codecType (config : AudioConfig) : Nat :=
  config.extensionType.getD config.objectType

/-- The profile field of the headers of the track's frames. -/
def adtsProfile (config : AudioConfig) : Except MediaError Nat :=
  if config.objectType = 1 then .ok 0
  else if isExtension config.codecType ∨ config.objectType = 2 then .ok 1
  else if config.objectType = 3 then .ok 2
  else .error (.invalid .noAdtsProfile)

/-- The profile of the core codec. -/
def profile (config : AudioConfig) : Option Profile :=
  Profile.ofObjectType config.objectType

/-- The codec string of the track. -/
def codecs (config : AudioConfig) : String :=
  "mp4a.40." ++ toString config.codecType

/-- The number of channels; zero if the layout does not tell. -/
def channels (config : AudioConfig) : Nat :=
  if config.channelConfig = 7 then 8
  else if config.channelConfig ≤ 6 then config.channelConfig
  else 0

end AudioConfig

/-- The two-byte form of a configuration with an empty general audio part. Fields that are too
wide lose their high bits. -/
def serialize (objectType rateIndex channelConfig : Nat) : Bytes :=
  Bits.toBytes
    (Bits.ofNat 5 objectType ++ Bits.ofNat 4 rateIndex ++ Bits.ofNat 4 channelConfig ++
      Bits.ofNat 3 0)

end LiveMedia.Aac
