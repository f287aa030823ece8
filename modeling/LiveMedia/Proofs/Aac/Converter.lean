import LiveMedia.Aac.Converter
import LiveMedia.Proofs.Aac.FrameRuns
import LiveMedia.Proofs.Aac.AudioConfig

set_option autoImplicit false

/-!
# From access units to ADTS frames

Once a configuration is in force, an access unit is converted just if the configuration names a
profile and the frame fits its length field. The frame tells the configuration, but for the channel
configuration, of which there are more than an ADTS header can hold: there the high bit is lost.

## Main results

* `LiveMedia.Aac.Converter.convert_raw` — what the frame of a converted access unit tells.
* `LiveMedia.Aac.Converter.convert_raw_loses_channels` — a channel configuration that is lost.
-/

namespace LiveMedia.Aac

open AdtsHeader

/-! ## Configurations -/

namespace AudioConfig

variable {config : AudioConfig}

/-- The fields of a usable configuration. -/
lemma isValid_iff : config.isValid = true ↔
    config.objectType ≠ 0 ∧ config.frequencyIndex < samplingFrequencies.length ∧
      config.channelConfig < 15 := by
  simp [isValid, and_assoc]

/-- A profile fits its field. -/
lemma adtsProfile_lt {profile : Nat} (h : config.adtsProfile = .ok profile) : profile < 4 := by
  unfold adtsProfile at h
  split at h
  · cases h
    decide
  · split at h
    · cases h
      decide
    · split at h
      · cases h
        decide
      · cases h

/-- An access unit is put into a frame just if there is a profile and the frame fits its field. -/
lemma frame_eq_ok_iff {payload frame : Bytes} :
    config.frame payload = .ok frame ↔ ∃ profile, config.adtsProfile = .ok profile ∧
      adtsFrame profile config.frequencyIndex config.channelConfig payload = .ok frame := by
  unfold AudioConfig.frame
  cases config.adtsProfile with
  | error e =>
    exact ⟨fun h => (by cases h), fun ⟨_, h, _⟩ => (by cases h)⟩
  | ok profile =>
    exact ⟨fun h => ⟨profile, rfl, h⟩, fun ⟨_, h, hframe⟩ => by cases h; exact hframe⟩

end AudioConfig

namespace Converter

variable {config : AudioConfig} {c c' : Converter}

/-- A configuration that is accepted is usable and in force. -/
lemma outcome_setConfig_eq_ok_iff {u : Unit} :
    outcome (setConfig config) c = (.ok u, c') ↔ config.isValid = true ∧ c' = ⟨some config⟩ := by
  unfold setConfig
  by_cases h : config.isValid
  · rw [if_pos h, outcome_set, Prod.mk.injEq]
    exact ⟨fun hc => ⟨h, hc.2.symm⟩, fun hc => ⟨rfl, hc.2.symm⟩⟩
  · rw [if_neg h]
    exact ⟨fun hc => (by cases hc), fun hc => absurd hc.1 h⟩

/-- Bytes that are no usable configuration are refused, and the old one stays. -/
lemma outcome_configure_of_not_usable {data : Bytes} (h : ¬AudioConfig.Usable data) :
    outcome (configure data) c = (.error (AudioConfig.refusal data), c) := by
  rw [configure, outcome_bind, outcome_liftM, AudioConfig.refusal]
  cases hparse : AudioConfig.parse data with
  | error e => rfl
  | ok config =>
    have hinvalid : ¬config.isValid = true := fun hvalid => h ⟨config, hparse, hvalid⟩
    show outcome (setConfig config) c = _
    rw [setConfig, if_neg hinvalid]
    rfl

/-- While no configuration is in force, an access unit is refused: for the lack of one, or for what
is wrong with the one that comes with it. -/
lemma outcome_convert_raw_none (payload : Bytes) {extradata : Option Bytes}
    (h : ∀ data ∈ extradata, ¬AudioConfig.Usable data) :
    outcome (convert .raw payload extradata) {} =
      (.error (extradata.elim .missingConfig AudioConfig.refusal), {}) := by
  cases extradata with
  | none => rfl
  | some data =>
    have hrefused := outcome_configure_of_not_usable (c := {}) (h data rfl)
    show outcome (configure data >>= _) {} = _
    rw [outcome_bind, hrefused]
    rfl

/-- With a configuration in force, an access unit is put into a frame. -/
lemma outcome_convert_raw_some (config : AudioConfig) (payload : Bytes) (extradata : Option Bytes) :
    outcome (convert .raw payload extradata) ⟨some config⟩ =
      (config.frame payload, ⟨some config⟩) :=
  rfl

/-- What `frame`, behind the header `header`, tells of a configuration and an access unit. -/
structure Carries (frame : Bytes) (header : AdtsHeader) (config : AudioConfig) (payload : Bytes) :
    Prop where
  parse : AdtsHeader.parse frame = .ok header
  isValid : header.isValid = true
  profile : config.adtsProfile = .ok header.profile
  rateIndex : header.rateIndex = config.frequencyIndex
  /-- The high bit of the channel configuration is lost. -/
  channelConfig : header.channelConfig = config.channelConfig % 8
  frameLength : header.frameLength = frame.length
  length : frame.length = payload.length + minSize
  payloads : adtsPayloads frame = .ok [payload]

/-- A frame under a usable configuration carries the access unit. -/
lemma carries_of_frame {payload frame : Bytes} (hvalid : config.isValid = true)
    (h : config.frame payload = .ok frame) : ∃ header, Carries frame header config payload := by
  obtain ⟨profile, hprofile, hframe⟩ := AudioConfig.frame_eq_ok_iff.1 h
  obtain ⟨-, hrate, -⟩ := AudioConfig.isValid_iff.1 hvalid
  have hprofile4 : profile < 4 := AudioConfig.adtsProfile_lt hprofile
  have hrate16 : config.frequencyIndex < 16 := Nat.lt_trans hrate (by decide)
  have hlength : frame.length = payload.length + minSize := length_adtsFrame hframe
  have hparse := parse_adtsFrame hprofile4 hrate16 hframe []
  have hpayloads := adtsPayloads_adtsFrame_append hprofile4 hrate16 hframe []
  rw [List.append_nil] at hparse hpayloads
  refine ⟨_, hparse, ?_, hprofile, rfl, rfl, hlength.symm, hlength, ?_⟩
  · have hsize : minSize ≤ payload.length + minSize := Nat.le_add_left _ _
    simp [AdtsHeader.isValid, forPayload, rate?, samplingFrequency?, hrate, payloadLength?, size,
      hsize]
  · rw [hpayloads, adtsPayloads]
    rfl

/-- **Frames tell the configuration.** Once a configuration is accepted, an access unit is converted
just if the configuration names a profile and the frame fits its length field. The frame then holds
the access unit behind a valid header with the profile, the frequency index and the length, and with
the low three bits of the channel configuration: all of it only below 8, while those up to 14 are
accepted.

**Proof sketch.** An accepted configuration is usable, so its frequency index fits its field, and so
does a profile (`AudioConfig.adtsProfile_lt`). A header whose channel configuration is too wide is
written like the one with its low bits (`parse_adtsFrame`). -/
theorem convert_raw (h : outcome (setConfig config) c = (.ok (), c')) (payload : Bytes)
    (extradata : Option Bytes) :
    ((outcome (convert .raw payload extradata) c').1.isOk = true ↔
      (∃ profile, config.adtsProfile = .ok profile) ∧
        payload.length + minSize ≤ maxFrameLength) ∧
    ∀ frame c'', outcome (convert .raw payload extradata) c' = (.ok frame, c'') →
      c'' = c' ∧ ∃ header, Carries frame header config payload := by
  obtain ⟨hvalid, rfl⟩ := outcome_setConfig_eq_ok_iff.1 h
  rw [outcome_convert_raw_some]
  refine ⟨⟨fun hok => ?_, ?_⟩, fun frame c'' hframe => ?_⟩
  · cases hframe : config.frame payload with
    | error e =>
      rw [hframe] at hok
      cases hok
    | ok frame =>
      obtain ⟨profile, hprofile, hframe⟩ := AudioConfig.frame_eq_ok_iff.1 hframe
      exact ⟨⟨profile, hprofile⟩, (adtsFrame_eq_ok_iff.1 hframe).1⟩
  · rintro ⟨⟨profile, hprofile⟩, hlength⟩
    have hframe := AudioConfig.frame_eq_ok_iff.2
      ⟨profile, hprofile, adtsFrame_eq_ok_iff.2 ⟨hlength, rfl⟩⟩
    rw [hframe]
    rfl
  · obtain ⟨hok, rfl⟩ := Prod.mk.inj hframe
    exact ⟨rfl, carries_of_frame hvalid hok⟩

/-- A stereo configuration of spectral band replication around a low complexity core. -/
def replicatedStereo : AudioConfig where
  objectType := 2
  extensionType := some 5
  rateIndex := 7
  rate := 22050
  channelConfig := 2
  frameLength := 1024
  raw := [0x2B, 0x92, 0x08, 0x00]

/-- An access unit under the stereo configuration. -/
theorem convert_raw_stereo :
    AudioConfig.parse replicatedStereo.raw = .ok replicatedStereo ∧
    outcome (setConfig replicatedStereo) {} = (.ok (), ⟨some replicatedStereo⟩) ∧
    outcome (convert .raw [0x21, 0x10] none) ⟨some replicatedStereo⟩ =
      (.ok [0xFF, 0xF1, 0x5C, 0x80, 0x01, 0x3F, 0xFC, 0x21, 0x10], ⟨some replicatedStereo⟩) ∧
    ∃ header, Carries [0xFF, 0xF1, 0x5C, 0x80, 0x01, 0x3F, 0xFC, 0x21, 0x10] header replicatedStereo
      [0x21, 0x10] := by
  have hset : outcome (setConfig replicatedStereo) {} = (.ok (), ⟨some replicatedStereo⟩) := by
    decide
  have hconvert : outcome (convert .raw [0x21, 0x10] none) ⟨some replicatedStereo⟩ =
      (.ok [0xFF, 0xF1, 0x5C, 0x80, 0x01, 0x3F, 0xFC, 0x21, 0x10], ⟨some replicatedStereo⟩) := by
    decide
  exact ⟨by decide +kernel, hset, hconvert, ((convert_raw hset _ _).2 _ _ hconvert).2⟩

/-- A low complexity configuration with a channel configuration that takes four bits. -/
def wideLayout : AudioConfig where
  objectType := 2
  extensionType := none
  rateIndex := 4
  rate := 44100
  channelConfig := 12
  frameLength := 1024
  raw := [0x12, 0x60]

/-- **Not every frame tells the channel configuration.** The header says 4 where the configuration says
12, and the conversion does not fail. -/
theorem convert_raw_loses_channels :
    ¬ ∀ (config : AudioConfig) (c c' c'' : Converter) (payload frame : Bytes)
      (extradata : Option Bytes), AudioConfig.parse config.raw = .ok config →
        outcome (setConfig config) c = (.ok (), c') →
        outcome (convert .raw payload extradata) c' = (.ok frame, c'') →
        ∃ header, AdtsHeader.parse frame = .ok header ∧
          header.channelConfig = config.channelConfig := by
  intro h
  have hframe : wideLayout.frame [] = .ok [0xFF, 0xF1, 0x51, 0x00, 0x00, 0xFF, 0xFC] := by decide
  obtain ⟨header, hparse, hchannels⟩ := h wideLayout {} ⟨some wideLayout⟩ ⟨some wideLayout⟩ [] _
    none (by decide +kernel) (by decide) (congrArg (·, _) hframe)
  obtain ⟨header', hcarries⟩ := carries_of_frame (by decide) hframe
  rw [hcarries.parse] at hparse
  cases hparse
  rw [hcarries.channelConfig] at hchannels
  exact absurd hchannels (by decide)

end Converter

end LiveMedia.Aac
