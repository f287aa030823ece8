import LiveMedia.Aac.AudioConfig
import LiveMedia.Proofs.Bits.Cursor

set_option autoImplicit false

/-!
# AAC configurations, written and parsed

A configuration that is written field by field and packed into bytes is parsed as what its fields
say, whatever is written behind it. Bytes that end in front of the general audio part are refused;
of those that end inside it only the number of samples of a frame is lost.

## Main definitions

* `LiveMedia.Aac.ObjectTypeCode`, `LiveMedia.Aac.FrequencyCode`, `LiveMedia.Aac.Extension`,
  `LiveMedia.Aac.GeneralAudio` — the parts of a configuration, with the bits that are written.
* `LiveMedia.Aac.Written` — a configuration by its parts.
* `LiveMedia.Aac.readHead`, `LiveMedia.Aac.readFrameLength` — the two steps of the parser.

## Main results

* `LiveMedia.Aac.outcome_readHead_append`,
  `LiveMedia.Aac.outcome_readGeneralAudio_append` — each part is read back.
* `LiveMedia.Aac.AudioConfig.parse_of_bits`, `LiveMedia.Aac.AudioConfig.parse_of_audio_cut`,
  `LiveMedia.Aac.AudioConfig.parse_of_head_cut` — bytes that begin with a configuration, and bytes
  that end inside it.
* `LiveMedia.Aac.AudioConfig.parse_written` — every configuration that is written is parsed.
-/

namespace LiveMedia.Aac

open Bits

/-! ## The syntax -/

/-- An object type as it is written: in five bits, or in six more behind an escape. -/
inductive ObjectTypeCode where
  | plain (type : Fin 31)
  | escaped (above : BitVec 6)
  deriving DecidableEq

namespace ObjectTypeCode

/-- The object type. -/
def value : ObjectTypeCode → Nat
  | plain type => type
  | escaped above => 32 + above.toNat

/-- The bits that are written. -/
def bits : ObjectTypeCode → List Bool
  | plain type => ofNat 5 type
  | escaped above => ofNat 5 31 ++ ofNat 6 above.toNat

end ObjectTypeCode

/-- A sampling frequency as it is written: by its index, or spelled out. -/
inductive FrequencyCode where
  | indexed (index : Fin 15)
  | explicit (rate : BitVec 24)
  deriving DecidableEq

namespace FrequencyCode

/-- The index that is written. -/
def index : FrequencyCode → Nat
  | indexed index => index
  | explicit _ => explicitIndex

/-- The frequency in Hz; zero for an index behind the end of the table. -/
def rate : FrequencyCode → Nat
  | indexed index => samplingFrequencies[index.val]?.getD 0
  | explicit rate => rate.toNat

/-- The reserved indexes. -/
example : (indexed 13).rate = 0 ∧ (indexed 14).rate = 0 := by decide

/-- The bits that are written. -/
def bits : FrequencyCode → List Bool
  | indexed index => ofNat 4 index
  | explicit rate => ofNat 4 explicitIndex ++ ofNat 24 rate.toNat

end FrequencyCode

/-- What is written behind the object type of a high-efficiency variant. -/
structure Extension where
  frequency : FrequencyCode
  /-- The object type of the core codec. -/
  coreType : ObjectTypeCode
  /-- Written for bit-sliced coding only. -/
  channels : BitVec 4

/-- The bits that are written. -/
def Extension.bits (e : Extension) : List Bool :=
  e.frequency.bits ++ e.coreType.bits ++
    if e.coreType.value = bsacType then ofNat 4 e.channels.toNat else []

/-- The general audio part. Which of the fields are written depends on the object type. -/
structure GeneralAudio where
  /-- The frame length flag. -/
  short : Bool
  coreCoderDelay : Option (BitVec 14)
  /-- The extension flag. -/
  extended : Bool
  /-- The number of the layer, written for scalable object types. -/
  layer : BitVec 3
  /-- The number of subframes and the length of a layer, written for bit-sliced coding. -/
  subFrames : BitVec 5
  layerLength : BitVec 11
  /-- Three flags, written for error-resilient object types. -/
  resilience : BitVec 3
  extensionFlag3 : Bool

namespace GeneralAudio

/-- The delay of the core coder behind its flag. -/
def delayBits : Option (BitVec 14) → List Bool
  | none => [false]
  | some delay => true :: ofNat 14 delay.toNat

/-- The fields behind the extension flag. -/
def extensionBits (a : GeneralAudio) (objectType : Nat) : List Bool :=
  (if objectType = bsacType then ofNat 5 a.subFrames.toNat ++ ofNat 11 a.layerLength.toNat
    else []) ++
  (if [17, 19, 20, 23].contains objectType then ofNat 3 a.resilience.toNat else []) ++
  [a.extensionFlag3]

/-- The bits that are written. -/
def bits (a : GeneralAudio) (objectType : Nat) : List Bool :=
  [a.short] ++ delayBits a.coreCoderDelay ++ [a.extended] ++
  (if objectType = 6 ∨ objectType = 20 then ofNat 3 a.layer.toNat else []) ++
  (if a.extended then a.extensionBits objectType else [])

end GeneralAudio

/-- The fields of a configuration. The extension is written if the first object type has one, the
general audio part if the object type of the core codec has one. -/
structure Written where
  outerType : ObjectTypeCode
  frequency : FrequencyCode
  channelConfig : BitVec 4
  extension : Extension
  generalAudio : GeneralAudio

namespace Written

/-- The object type of the core codec. -/
def objectType (x : Written) : Nat :=
  if isExtension x.outerType.value then x.extension.coreType.value else x.outerType.value

/-- The bits in front of the general audio part. -/
def headBits (x : Written) : List Bool :=
  x.outerType.bits ++ x.frequency.bits ++ ofNat 4 x.channelConfig.toNat ++
    if isExtension x.outerType.value then x.extension.bits else []

/-- The bits of the general audio part. -/
def generalAudioBits (x : Written) : List Bool :=
  if hasGeneralAudio x.objectType then x.generalAudio.bits x.objectType else []

/-- The bits that are written. -/
def bits (x : Written) : List Bool :=
  x.headBits ++ x.generalAudioBits

/-- The number of samples of a frame, by the object type and, where there is a general audio part,
by its frame length flag. -/
def frameLength (x : Written) : Nat :=
  if x.objectType = 23 then
    if x.generalAudio.short then 480 else 512
  else if x.objectType = 3 then
    256
  else
    if hasGeneralAudio x.objectType && x.generalAudio.short then 960 else 1024

/-- What the configuration says, with the bytes it is read from. -/
def config (x : Written) (raw : Bytes) : AudioConfig where
  objectType := x.objectType
  extensionType := if isExtension x.outerType.value then some x.outerType.value else none
  rateIndex := x.frequency.index
  rate := x.frequency.rate
  channelConfig := x.channelConfig.toNat
  frameLength := x.frameLength
  raw

end Written

/-! ## Reading in parts -/

section

variable {σ τ α β : Type} {c : Prop} [Decidable c]

/-- Reads what is there under a condition, and drops it. -/
def optionally (c : Prop) [Decidable c] (x : Read σ α) : Read σ Unit :=
  if c then (fun _ => ()) <$> x else pure ()

lemma optionally_bind (x : Read σ α) (k : Unit → Read σ β) :
    optionally c x >>= k = if c then x >>= fun _ => k () else k () := by
  unfold optionally
  split
  · rw [bind_map_left]
  · rfl

lemma tracks_optionally {aside : MediaError → Prop} {R : σ → τ → Prop} {x : Read σ α}
    {y : Read τ α} (h : Tracks aside R x y) :
    Tracks aside R (optionally c x) (optionally c y) :=
  .ite (h.map _) (.pure ())

lemma outcome_optionally_append {x : Read (List Bool) α} {a : α} {bits rest : List Bool}
    (h : outcome x (bits ++ rest) = (.ok a, rest)) :
    outcome (optionally c x) ((if c then bits else []) ++ rest) = (.ok (), rest) := by
  unfold optionally
  split
  · rw [outcome_map, h]
    rfl
  · rfl

end

section

variable {σ : Type} [BitSource σ]

/-- Reads the delay of the core coder, if it is there. -/
def readDelay : Read σ Unit := do
  let delayed ← readBit
  optionally (delayed = true) (readBits 14)

/-- Reads the fields behind the extension flag. -/
def readExtensionFields (objectType : Nat) : Read σ Unit := do
  optionally (objectType = bsacType) (do let _ ← readBits 5; readBits 11)
  optionally ([17, 19, 20, 23].contains objectType = true) (skipBits 3)
  let _extensionFlag3 ← readBit
  pure ()

/-- The general audio part with one step for each of its fields. -/
lemma readGeneralAudio_eq (objectType : Nat) :
    (readGeneralAudio objectType : Read σ Nat) = (do
      let short ← readBit
      readDelay
      let extended ← readBit
      optionally (objectType = 6 ∨ objectType = 20) (readBits 3)
      optionally (extended = true) (readExtensionFields objectType)
      pure (samplesPerFrame objectType short)) := by
  -- from the outside in, so that what follows a condition gets into both of its branches
  simp only [readDelay, bind_assoc, optionally_bind]
  simp only [readExtensionFields, bind_assoc, pure_bind]
  simp only [optionally_bind, bind_assoc]
  rfl

/-- What is said in front of the general audio part. -/
structure Head where
  outerType : Nat
  rateIndex : Nat
  rate : Nat
  channelConfig : Nat
  /-- The object type of the core codec. -/
  objectType : Nat

/-- The configuration of a head, with the number of samples of a frame. -/
def Head.config (h : Head) (raw : Bytes) (frameLength : Nat) : AudioConfig where
  objectType := h.objectType
  extensionType := if isExtension h.outerType then some h.outerType else none
  rateIndex := h.rateIndex
  rate := h.rate
  channelConfig := h.channelConfig
  frameLength
  raw

/-- The head of a configuration that is written. -/
def Written.head (x : Written) : Head where
  outerType := x.outerType.value
  rateIndex := x.frequency.index
  rate := x.frequency.rate
  channelConfig := x.channelConfig.toNat
  objectType := x.objectType

/-- Reads what is in front of the general audio part. -/
def readHead : Read σ Head := do
  let outerType ← readObjectType
  let (rateIndex, rate) ← readFrequency
  let channelConfig ← readBits 4
  let objectType ← if isExtension outerType then readCoreType else pure outerType
  pure ⟨outerType, rateIndex, rate, channelConfig, objectType⟩

/-- Reads the number of samples of a frame from the general audio part, if there is one and it is
whole. -/
def readFrameLength (objectType : Nat) : Read σ Nat :=
  if hasGeneralAudio objectType then
    tryCatch (readGeneralAudio objectType) fun _ => pure defaultFrameLength
  else
    pure defaultFrameLength

lemma read_eq (raw : Bytes) : (AudioConfig.read raw : Read σ AudioConfig) = (do
    let head ← readHead
    let frameLength ← readFrameLength head.objectType
    pure (head.config raw frameLength)) := by
  unfold AudioConfig.read readHead readFrameLength Head.config
  simp only [bind_assoc, pure_bind]
  refine bind_congr fun outerType => bind_congr fun frequency => bind_congr fun channelConfig => ?_
  split
  · simp only [bind_assoc, pure_bind]
    exact bind_congr fun objectType => by split <;> rfl
  · simp only [pure_bind]
    split <;> rfl

end

/-! ## Reading what is written -/

section

variable {n : Nat}

/-- A field is read back. -/
lemma outcome_readBits_append (hn : n ≤ maxFieldWidth) (v : BitVec n) (rest : List Bool) :
    outcome (readBits n) (ofNat n v.toNat ++ rest) = (.ok v.toNat, rest) :=
  outcome_readBits_eq_ok_iff.2 ⟨hn, v.isLt, rfl⟩

variable (rest : List Bool)

lemma outcome_readObjectType_append (t : ObjectTypeCode) :
    outcome readObjectType (t.bits ++ rest) = (.ok t.value, rest) := by
  rw [readObjectType, outcome_bind_eq_iff]
  cases t with
  | plain type =>
    refine ⟨type, rest, outcome_readBits_eq_ok_iff.2 ⟨by decide, by omega, rfl⟩, ?_⟩
    rw [if_neg (Nat.ne_of_lt type.isLt)]
    rfl
  | escaped above =>
    rw [ObjectTypeCode.bits, List.append_assoc]
    refine ⟨31, _, outcome_readBits_eq_ok_iff.2 ⟨by decide, by decide, rfl⟩, ?_⟩
    rw [if_pos rfl, outcome_bind, outcome_readBits_append (by decide)]
    rfl

lemma outcome_readFrequency_append (f : FrequencyCode) :
    outcome readFrequency (f.bits ++ rest) = (.ok (f.index, f.rate), rest) := by
  rw [readFrequency, outcome_bind_eq_iff]
  cases f with
  | indexed index =>
    have hne : index.val ≠ explicitIndex := Nat.ne_of_lt index.isLt
    refine ⟨index, rest, outcome_readBits_eq_ok_iff.2 ⟨by decide, by omega, rfl⟩, ?_⟩
    rw [if_neg hne]
    rfl
  | explicit rate =>
    rw [FrequencyCode.bits, List.append_assoc]
    refine ⟨explicitIndex, _, outcome_readBits_eq_ok_iff.2 ⟨by decide, by decide, rfl⟩, ?_⟩
    rw [if_pos rfl, outcome_bind, outcome_readBits_append (by decide)]
    rfl

lemma outcome_readCoreType_append (e : Extension) :
    outcome readCoreType (e.bits ++ rest) = (.ok e.coreType.value, rest) := by
  rw [Extension.bits, List.append_assoc, List.append_assoc]
  refine outcome_bind_eq_iff.2 ⟨_, _, outcome_readFrequency_append _ _, ?_⟩
  refine outcome_bind_eq_iff.2 ⟨_, _, outcome_readObjectType_append _ _, ?_⟩
  split
  · exact outcome_bind_eq_iff.2 ⟨_, _, outcome_readBits_append (by decide) e.channels rest, rfl⟩
  · rfl

/-- What is in front of the general audio part is read back. -/
lemma outcome_readHead_append (x : Written) :
    outcome readHead (x.headBits ++ rest) = (.ok x.head, rest) := by
  simp only [Written.headBits, List.append_assoc]
  refine outcome_bind_eq_iff.2 ⟨_, _, outcome_readObjectType_append _ _, ?_⟩
  refine outcome_bind_eq_iff.2 ⟨_, _, outcome_readFrequency_append _ _, ?_⟩
  refine outcome_bind_eq_iff.2 ⟨_, _, outcome_readBits_append (by decide) x.channelConfig _, ?_⟩
  unfold Written.head Written.objectType
  split
  · exact outcome_bind_eq_iff.2 ⟨_, _, outcome_readCoreType_append _ x.extension, rfl⟩
  · rfl

lemma outcome_readDelay_append (delay : Option (BitVec 14)) :
    outcome readDelay (GeneralAudio.delayBits delay ++ rest) = (.ok (), rest) := by
  cases delay with
  | none => rfl
  | some delay =>
    exact outcome_bind_eq_iff.2 ⟨true, _, rfl, outcome_optionally_append (c := true = true)
      (outcome_readBits_append (by decide) delay rest)⟩

lemma outcome_readExtensionFields_append (a : GeneralAudio) (objectType : Nat) :
    outcome (readExtensionFields objectType) (a.extensionBits objectType ++ rest) =
      (.ok (), rest) := by
  simp only [GeneralAudio.extensionBits, List.append_assoc]
  refine outcome_bind_eq_iff.2 ⟨(), _, outcome_optionally_append (a := a.layerLength.toNat) ?_, ?_⟩
  · rw [List.append_assoc]
    exact outcome_bind_eq_iff.2 ⟨_, _, outcome_readBits_append (by decide) a.subFrames _,
      outcome_readBits_append (by decide) a.layerLength _⟩
  · refine outcome_bind_eq_iff.2 ⟨(), _, outcome_optionally_append (a := ()) ?_, rfl⟩
    exact outcome_skipBits_eq_ok_iff.2 ⟨_, length_ofNat .., rfl⟩

/-- The general audio part is read back. -/
lemma outcome_readGeneralAudio_append (a : GeneralAudio) (objectType : Nat) :
    outcome (readGeneralAudio objectType) (a.bits objectType ++ rest) =
      (.ok (samplesPerFrame objectType a.short), rest) := by
  rw [readGeneralAudio_eq]
  simp only [GeneralAudio.bits, List.append_assoc]
  refine outcome_bind_eq_iff.2 ⟨a.short, _, rfl, ?_⟩
  refine outcome_bind_eq_iff.2 ⟨(), _, outcome_readDelay_append _ a.coreCoderDelay, ?_⟩
  refine outcome_bind_eq_iff.2 ⟨a.extended, _, rfl, ?_⟩
  refine outcome_bind_eq_iff.2 ⟨(), _, outcome_optionally_append
    (outcome_readBits_append (by decide) a.layer _), ?_⟩
  exact outcome_bind_eq_iff.2 ⟨(), _, outcome_optionally_append
    (outcome_readExtensionFields_append _ a objectType), rfl⟩

end

/-! ## Reading from other sources, and bits that are cut short -/

section

variable {σ τ : Type} [BitSource σ] [BitSource τ] {aside : MediaError → Prop} {R : σ → τ → Prop}

lemma tracks_readObjectType (h : Simulates aside R) :
    Tracks aside R (readObjectType : Read σ Nat) readObjectType :=
  (h.readBits 5).bind fun _ => .ite ((h.readBits 6).bind fun _ => .pure _) (.pure _)

lemma tracks_readFrequency (h : Simulates aside R) :
    Tracks aside R (readFrequency : Read σ (Nat × Nat)) readFrequency :=
  (h.readBits 4).bind fun _ => .ite ((h.readBits 24).bind fun _ => .pure _) (.pure _)

lemma tracks_readCoreType (h : Simulates aside R) :
    Tracks aside R (readCoreType : Read σ Nat) readCoreType :=
  (tracks_readFrequency h).bind fun _ => (tracks_readObjectType h).bind fun _ =>
    .ite ((h.readBits 4).bind fun _ => .pure _) (.pure _)

lemma tracks_readHead (h : Simulates aside R) :
    Tracks aside R (readHead : Read σ Head) readHead :=
  (tracks_readObjectType h).bind fun _ => (tracks_readFrequency h).bind fun _ =>
    (h.readBits 4).bind fun _ => .ite ((tracks_readCoreType h).bind fun _ => .pure _) (.pure _)

lemma tracks_readGeneralAudio (h : Simulates aside R) (objectType : Nat) :
    Tracks aside R (readGeneralAudio objectType : Read σ Nat) (readGeneralAudio objectType) := by
  have hdelay : Tracks aside R (readDelay : Read σ Unit) readDelay :=
    h.readBit.bind fun _ => tracks_optionally (h.readBits 14)
  have hbsac : Tracks aside R (do let _ ← readBits 5; readBits 11 : Read σ Nat)
      (do let _ ← readBits 5; readBits 11) :=
    (h.readBits 5).bind fun _ => h.readBits 11
  have hextension : Tracks aside R (readExtensionFields objectType : Read σ Unit)
      (readExtensionFields objectType) :=
    (tracks_optionally hbsac).bind fun _ => (tracks_optionally (h.skipBits 3)).bind fun _ =>
      h.readBit.bind fun _ => .pure _
  rw [readGeneralAudio_eq, readGeneralAudio_eq]
  exact h.readBit.bind fun _ => hdelay.bind fun _ => h.readBit.bind fun _ =>
    (tracks_optionally (h.readBits 3)).bind fun _ => (tracks_optionally hextension).bind fun _ =>
    .pure _

lemma follows_readHead [LawfulBitSource σ] : Follows Left (readHead : Read σ Head) readHead :=
  follows_iff_tracks.2 (tracks_readHead simulates_left)

lemma follows_readGeneralAudio [LawfulBitSource σ] (objectType : Nat) :
    Follows Left (readGeneralAudio objectType : Read σ Nat) (readGeneralAudio objectType) :=
  follows_iff_tracks.2 (tracks_readGeneralAudio simulates_left objectType)

/-- The number of samples of a frame by what becomes of the general audio part. -/
def frameLengthOf (objectType : Nat) : Except MediaError Nat → Nat
  | .ok n => if hasGeneralAudio objectType then n else defaultFrameLength
  | .error _ => defaultFrameLength

lemma outcome_readFrameLength (objectType : Nat) (s : σ) :
    (outcome (readFrameLength objectType) s).1 =
      .ok (frameLengthOf objectType (outcome (readGeneralAudio objectType) s).1) := by
  unfold readFrameLength
  split
  · next haudio =>
    rw [outcome_tryCatch]
    rcases outcome (readGeneralAudio objectType) s with ⟨_ | n, _⟩
    · rfl
    · exact congrArg Except.ok (if_pos haudio).symm
  · next haudio =>
    rcases outcome (readGeneralAudio objectType) s with ⟨_ | n, _⟩
    · rfl
    · exact congrArg Except.ok (if_neg haudio).symm

end

namespace AudioConfig

variable {data : Bytes}

lemma parse_eq (hsize : minSize ≤ data.length) :
    parse data = (outcome (read data) ({ data := data } : BitCursor)).1 :=
  if_neg (Nat.not_lt.2 hsize)

/-- Without a head nothing is parsed. -/
lemma parse_of_head_error {e : MediaError} (hsize : minSize ≤ data.length)
    (hread : (outcome readHead (ofBytes data)).1 = .error e) : parse data = .error e := by
  obtain ⟨hresult, -⟩ := follows_readHead ({ data := data } : BitCursor) (ofBytes data) rfl
  rw [hread] at hresult
  rw [parse_eq hsize, read_eq, outcome_bind]
  rcases hhead : outcome readHead ({ data := data } : BitCursor) with ⟨_ | _, c⟩ <;>
    rw [hhead] at hresult <;> cases hresult
  rfl

/-- What is parsed is told by the head and by what is behind it. -/
lemma parse_of_head {head : Head} {rest : List Bool} (hsize : minSize ≤ data.length)
    (hread : outcome readHead (ofBytes data) = (.ok head, rest)) :
    parse data = .ok (head.config data
      (frameLengthOf head.objectType (outcome (readGeneralAudio head.objectType) rest).1)) := by
  obtain ⟨hresult, hleft⟩ := follows_readHead ({ data := data } : BitCursor) (ofBytes data) rfl
  rw [hread] at hresult hleft
  rw [parse_eq hsize, read_eq, outcome_bind]
  rcases hhead : outcome readHead ({ data := data } : BitCursor) with ⟨_ | _, c⟩ <;>
    rw [hhead] at hresult hleft <;> cases hresult
  obtain ⟨haudio, -⟩ := follows_readGeneralAudio head.objectType c rest (hleft head rfl)
  have hlength := outcome_readFrameLength head.objectType c
  rw [haudio] at hlength
  dsimp only
  rw [outcome_bind]
  rcases hcase : outcome (readFrameLength head.objectType) c with ⟨_ | _, _⟩ <;>
    rw [hcase] at hlength <;> cases hlength
  rfl

/-! ## Configurations that are written -/

section

variable (x : Written) {rest behind : List Bool}

/-- An object type, a frequency index and a channel configuration are always written. -/
lemma le_length_headBits : 13 ≤ x.headBits.length := by
  have htype : 5 ≤ x.outerType.bits.length := by
    cases x.outerType <;> simp [ObjectTypeCode.bits]
  have hrate : 4 ≤ x.frequency.bits.length := by
    cases x.frequency <;> simp [FrequencyCode.bits]
  simp only [Written.headBits, List.length_append, length_ofNat]
  omega

/-- Bytes that begin with a head are not too few. -/
lemma minSize_le_length (h : x.headBits.length ≤ 8 * data.length) : minSize ≤ data.length := by
  have hhead := le_length_headBits x
  unfold minSize
  omega

lemma frameLength_eq (haudio : hasGeneralAudio x.objectType = true) :
    x.frameLength = samplesPerFrame x.objectType x.generalAudio.short := by
  rw [Written.frameLength, samplesPerFrame, haudio, Bool.true_and]
  rfl

lemma frameLength_eq_default (haudio : ¬ hasGeneralAudio x.objectType = true) :
    x.frameLength = defaultFrameLength := by
  have hdelay : x.objectType ≠ 23 := fun h => haudio (h ▸ rfl)
  have hscalable : x.objectType ≠ 3 := fun h => haudio (h ▸ rfl)
  rw [Written.frameLength, if_neg hdelay, if_neg hscalable, Bool.eq_false_iff.2 haudio]
  rfl

/-- **Bytes that begin with a configuration are parsed as what it says.** -/
lemma parse_of_bits (h : ofBytes data = x.bits ++ rest) : parse data = .ok (x.config data) := by
  have hlen := congrArg List.length h
  simp only [Written.bits, List.length_append, length_ofBytes] at hlen
  rw [Written.bits, List.append_assoc] at h
  have hread : outcome readHead (ofBytes data) = (.ok x.head, x.generalAudioBits ++ rest) := by
    rw [h, outcome_readHead_append]
  rw [parse_of_head (minSize_le_length x (by omega)) hread]
  refine congrArg (fun n => Except.ok (x.head.config data n)) ?_
  show frameLengthOf x.objectType (outcome (readGeneralAudio x.objectType) _).1 = x.frameLength
  by_cases haudio : hasGeneralAudio x.objectType = true
  · rw [Written.generalAudioBits, if_pos haudio, outcome_readGeneralAudio_append,
      frameLength_eq x haudio]
    exact if_pos haudio
  · rw [frameLength_eq_default x haudio]
    rcases (outcome (readGeneralAudio x.objectType) _).1 with _ | n
    · rfl
    · exact if_neg haudio

/-- Bytes that end inside the general audio part are parsed with the default number of samples. -/
lemma parse_of_audio_cut (h : ofBytes data ++ behind = x.bits ++ rest)
    (hhead : x.headBits.length ≤ 8 * data.length) (hcut : rest.length < behind.length) :
    parse data = .ok { x.config data with frameLength := defaultFrameLength } := by
  rw [Written.bits, List.append_assoc] at h
  obtain ⟨cut, hdata⟩ : x.headBits <+: ofBytes data := by
    refine List.prefix_of_prefix_length_le ⟨_, h.symm⟩ ⟨_, rfl⟩ ?_
    rw [length_ofBytes]
    omega
  have haudio : cut ++ behind = x.generalAudioBits ++ rest := by
    rw [← hdata, List.append_assoc] at h
    exact List.append_cancel_left h
  have hwhole : outcome (readGeneralAudio x.objectType) (cut ++ behind) =
      (.ok (samplesPerFrame x.objectType x.generalAudio.short), rest) := by
    by_cases hga : hasGeneralAudio x.objectType = true
    · rw [haudio, Written.generalAudioBits, if_pos hga, outcome_readGeneralAudio_append]
    · -- without such a part nothing could be cut
      rw [Written.generalAudioBits, if_neg hga, List.nil_append] at haudio
      rw [← haudio, List.length_append] at hcut
      omega
  have htracks := tracks_readGeneralAudio (simulates_cut behind) x.objectType
  have htruncated := htracks.eq_truncated_of_lt hwhole hcut
  have hread : outcome readHead (ofBytes data) = (.ok x.head, cut) := by
    rw [← hdata, outcome_readHead_append]
  rw [parse_of_head (minSize_le_length x hhead) hread]
  show Except.ok (x.head.config data
    (frameLengthOf x.objectType (outcome (readGeneralAudio x.objectType) cut).1)) = _
  rw [htruncated]
  rfl

/-- Bytes that end in front of the general audio part are too few. -/
lemma parse_of_head_cut (h : ofBytes data ++ behind = x.headBits ++ rest)
    (hcut : 8 * data.length < x.headBits.length) : parse data = .error .truncated := by
  rcases Nat.lt_or_ge data.length minSize with hshort | hsize
  · exact if_pos hshort
  have hlen := congrArg List.length h
  rw [List.length_append, List.length_append, length_ofBytes] at hlen
  have hwhole : outcome readHead (ofBytes data ++ behind) = (.ok x.head, rest) := by
    rw [h, outcome_readHead_append]
  refine parse_of_head_error hsize ?_
  exact (tracks_readHead (simulates_cut behind)).eq_truncated_of_lt hwhole (by omega)

end

/-- **Every configuration that is written is parsed.** Let the fields of a configuration be written
one after another, with any bits behind them, and packed into bytes with zeros at the end. These are
at least two bytes, and they are parsed as just what the fields say. Of the bytes that are left by a
cut, those that end inside the general audio part are parsed in the same way, but with 1024 samples
to a frame, and those that end in front of it are truncated.

**Proof sketch.** Each field is read back from the front of the bits (`outcome_readHead_append`,
`outcome_readGeneralAudio_append`), and the packed bits come back with zeros behind them. Bits that
are cut short are read like the whole of them until they end, so that a reader that goes beyond the
cut on the whole bits finds the others truncated; in the general audio part this is caught. -/
theorem parse_written (x : Written) (behind : List Bool) :
    let data := toBytes (x.bits ++ behind)
    2 ≤ data.length ∧ parse data = .ok (x.config data) ∧
    ∀ m, (x.headBits.length ≤ 8 * m → 8 * m < x.bits.length →
        parse (data.take m) = .ok { x.config (data.take m) with frameLength := 1024 }) ∧
      (8 * m < x.headBits.length → parse (data.take m) = .error .truncated) := by
  intro data
  obtain ⟨fill, hdata⟩ : ∃ fill, ofBytes data = x.bits ++ fill := by
    rw [ofBytes_toBytes, List.append_assoc]
    exact ⟨_, rfl⟩
  have hlen := congrArg List.length hdata
  rw [length_ofBytes, List.length_append] at hlen
  have hbits : x.bits.length = x.headBits.length + x.generalAudioBits.length := List.length_append
  refine ⟨minSize_le_length x (by omega), parse_of_bits x hdata, fun m => ?_⟩
  have hsplit : ofBytes (data.take m) ++ ofBytes (data.drop m) = x.bits ++ fill := by
    rw [← ofBytes_append, List.take_append_drop, hdata]
  have hdrop : (ofBytes (data.drop m)).length = (data.length - m) * 8 := by
    rw [length_ofBytes, List.length_drop]
  constructor
  · intro hhead hcut
    have htake : (data.take m).length = m := List.length_take_of_le (by omega)
    exact parse_of_audio_cut x hsplit (by rwa [htake]) (by omega)
  · intro hcut
    have htake : (data.take m).length = m := List.length_take_of_le (by omega)
    rw [Written.bits, List.append_assoc] at hsplit
    exact parse_of_head_cut x hsplit (by rwa [htake])

/-- Parametric stereo around bit-sliced coding, at a frequency that is spelled out, with a general
audio part that has a delay and an extension; and the same bytes cut behind the head and inside. -/
theorem parse_written_parametric_stereo :
    let x : Written := {
      outerType := .plain 29
      frequency := .explicit 44056
      channelConfig := 2
      extension := ⟨.indexed 13, .plain 22, 1⟩
      generalAudio := ⟨true, some 100, true, 0, 3, 7, 0, false⟩ }
    let data := toBytes (x.bits ++ [])
    let config : AudioConfig := {
      objectType := 22
      extensionType := some 29
      rateIndex := 15
      rate := 44056
      channelConfig := 2
      frameLength := 960
      raw := data }
    parse data = .ok config ∧
    parse (data.take 7) = .ok { config with frameLength := 1024, raw := data.take 7 } ∧
    parse (data.take 6) = .error .truncated := by
  intro x data config
  obtain ⟨-, hwhole, hcut⟩ := parse_written x []
  exact ⟨hwhole, (hcut 7).1 (by decide) (by decide), (hcut 6).2 (by decide)⟩

end AudioConfig

end LiveMedia.Aac
