import LiveMedia.Proofs.Aac.Converter
import LiveMedia.Proofs.Nal.AccessUnit
import LiveMedia.Proofs.Track.Normalize

set_option autoImplicit false

/-!
# What a normalizer emits

A packet leaves the normalizer in one of six ways, by its kind and format. A packet of NAL units
gets the index of the payload it leaves with. A packet that carries none loses its index, unless it
is an AAC unit: its payload may be replaced, and it keeps whatever index it came with.

## Main definitions

* `LiveMedia.Normalizer.Emits` — how a packet leaves the normalizer.
* `LiveMedia.Normalizer.Sound` — the AAC configuration in force is usable.

## Main results

* `LiveMedia.Normalizer.sound_normalizeAll` — every normalizer that packets can lead to is sound.
* `LiveMedia.Normalizer.emits_of_normalize` — a packet leaves in one of the six ways.
* `LiveMedia.Normalizer.fragments_of_normalize` — the format and the index it leaves with.
* `LiveMedia.Normalizer.fragments_of_normalize_stale` — an index that does not fit the payload.
-/

namespace LiveMedia

open Aac

/-! ## Formats -/

namespace Format

/-- What the codec of a format says about NAL units, for the formats that are made of them. -/
def unitKind? : Format → Option Nal.UnitKind
  | .h264AnnexB | .h264Avcc => some Avc.NalType.kind
  | .h265AnnexB | .h265Hvcc => some Hevc.NalType.kind
  | _ => none

lemma isSome_unitKind? (f : Format) : f.unitKind?.isSome = f.carriesNalUnits := by
  cases f <;> rfl

@[simp] lemma unitKind?_canonical (f : Format) : f.canonical.unitKind? = f.unitKind? := by
  cases f <;> rfl

@[simp] lemma carriesNalUnits_canonical (f : Format) :
    f.canonical.carriesNalUnits = f.carriesNalUnits := by
  cases f <;> rfl

lemma carriesNalUnits_of_unitKind? {f : Format} {kind : Nal.UnitKind}
    (h : f.unitKind? = some kind) : f.carriesNalUnits = true := by
  rw [← isSome_unitKind?, h, Option.isSome_some]

/-- Formats of NAL units are not AAC. -/
lemma isAac_eq_false_of_unitKind? {f : Format} {kind : Nal.UnitKind}
    (h : f.unitKind? = some kind) : f.isAac = false := by
  cases f <;> first | rfl | cases h

lemma isAac_of_bare {f : Format} (h : f = .aacLatm ∨ f = .aacRaw) : f.isAac = true := by
  rcases h with rfl | rfl
  · rfl
  · rfl

lemma isAac_of_adts {f : Format} (h : f = .aacAdts) : f.isAac = true := by
  rw [h]
  rfl

end Format

/-! ## Usable configurations -/

namespace Aac.Converter

variable {c : Converter} {payload frame : Bytes} {extradata : Option Bytes}

/-- The configuration in force, if there is one, is usable. -/
def Sound (c : Converter) : Prop :=
  ∀ config ∈ c.config, config.isValid = true

lemma sound_empty : Sound {} :=
  nofun

/-- A configuration is put in force only if it is usable. -/
lemma preserves_setConfig (config : AudioConfig) : Preserves Sound (setConfig config) := by
  intro c hc
  cases hset : outcome (setConfig config) c with
  | mk result c' =>
    cases result with
    | ok u =>
      obtain ⟨hvalid, rfl⟩ := outcome_setConfig_eq_ok_iff.1 hset
      intro config' hconfig'
      cases hconfig'
      exact hvalid
    | error e =>
      unfold setConfig at hset
      split at hset
      · cases hset
      · cases hset
        exact hc

lemma preserves_configure (data : Bytes) : Preserves Sound (configure data) :=
  (Preserves.liftM _).bind preserves_setConfig

/-- An access unit in a frame under the configuration in force. -/
def pack (payload : Bytes) : Step Bytes := do
  match (← get).config with
  | none => throw .missingConfig
  | some config => (config.frame payload : Except MediaError Bytes)

lemma outcome_pack (payload : Bytes) (c : Converter) :
    outcome (pack payload) c =
      (c.config.elim (.error .missingConfig) fun config => config.frame payload, c) := by
  obtain ⟨_ | config⟩ := c
  · rfl
  · rfl

/-- The configuration that comes with an access unit is put in force first, if there is none yet. -/
lemma outcome_convert_raw (payload : Bytes) (extradata : Option Bytes) (c : Converter) :
    outcome (convert .raw payload extradata) c =
      match c.config, extradata with
      | none, some data => outcome (configure data >>= fun _ => pack payload) c
      | _, _ => outcome (pack payload) c := by
  obtain ⟨_ | config⟩ := c
  · cases extradata with
    | none => rfl
    | some data => rfl
  · rfl

lemma preserves_pack (payload : Bytes) : Preserves Sound (pack payload) := by
  intro c hc
  rw [outcome_pack]
  exact hc

lemma preserves_convert_raw (payload : Bytes) (extradata : Option Bytes) :
    Preserves Sound (convert .raw payload extradata) := by
  intro c hc
  rw [outcome_convert_raw]
  split
  · exact ((preserves_configure _).bind fun _ => preserves_pack payload) c hc
  · exact preserves_pack payload c hc

/-- An access unit is packed only under a usable configuration. -/
lemma exists_frame_of_pack (hc : c.Sound) (h : (outcome (pack payload) c).1 = .ok frame) :
    ∃ config : AudioConfig, config.isValid = true ∧ config.frame payload = .ok frame := by
  rw [outcome_pack] at h
  obtain ⟨_ | config⟩ := c
  · cases h
  · exact ⟨config, hc config rfl, h⟩

/-- An access unit that is converted is put into a frame under a usable configuration. -/
lemma exists_frame_of_convert_raw (hc : c.Sound)
    (h : (outcome (convert .raw payload extradata) c).1 = .ok frame) :
    ∃ config : AudioConfig, config.isValid = true ∧ config.frame payload = .ok frame := by
  rw [outcome_convert_raw] at h
  split at h
  · obtain ⟨u, -, h⟩ := outcome_bind_eq_ok h
    exact exists_frame_of_pack (preserves_configure _ c hc) h
  · exact exists_frame_of_pack hc h

end Aac.Converter

namespace Normalizer

variable {n : Normalizer} {p q : Packet}

/-- The AAC configuration in force on the track, if there is one, is usable. -/
def Sound (n : Normalizer) : Prop :=
  n.aac.Sound

/-- A step of the converter keeps the track sound if it keeps the converter so. -/
lemma sound_withConverter {α : Type} {step : Converter.Step α}
    (h : Preserves Converter.Sound step) : Preserves Sound (withConverter step) :=
  fun n hn => h n.aac hn

lemma sound_applyConfig (format : Format) (data : Bytes) :
    Preserves Sound (applyConfig format data) := by
  have haccept : Preserves Sound (acceptConfig format data) := by
    cases format with
    | h264Avcc => exact (Preserves.liftM _).bind fun _ => .modify fun _ hn => hn
    | h265Hvcc => exact (Preserves.liftM _).bind fun _ => .modify fun _ hn => hn
    | aacAdts | aacLatm | aacRaw =>
      exact sound_withConverter (Converter.preserves_configure data)
    | h264AnnexB | h265AnnexB | vp8 | opus | unknown => exact .pure _
  exact haccept.bind fun _ => .modify fun _ hn => hn

lemma sound_normalizeUnit (p : Packet) : Preserves Sound (normalizeUnit p) := by
  unfold normalizeUnit
  split
  case h_1 | h_2 | h_8 | h_9 | h_10 => exact .pure _
  case h_3 | h_4 => exact Preserves.get.bind fun _ => (Preserves.liftM _).bind fun _ => .pure _
  case h_5 | h_6 =>
    refine Preserves.get.bind fun n => ?_
    exact (sound_withConverter (Converter.preserves_convert_raw _ _)).bind fun _ => .pure _
  case h_7 => exact .liftM _

lemma sound_normalize (p : Packet) : Preserves Sound (normalize p) := by
  unfold normalize
  split
  · exact (sound_applyConfig _ _).bind fun _ => .pure _
  · exact .pure _
  · exact (sound_normalizeUnit p).map some

/-- A track is declared sound, whether its configuration can be used or not. -/
lemma sound_ofInfo (info : TrackInfo) : (ofInfo info).1.Sound := by
  unfold ofInfo
  cases info.extradata with
  | none => exact Converter.sound_empty
  | some data =>
    have hsound := sound_applyConfig info.format data { info } Converter.sound_empty
    show Sound (match outcome (applyConfig info.format data) { info } with
      | (.ok (), n) => ((n, []) : Normalizer × List Warning)
      | (.error _, n) => (n, _)).1
    rcases happly : outcome (applyConfig info.format data) { info } with ⟨_ | _, n⟩
    all_goals
      rw [happly] at hsound
      exact hsound

/-- **A track is sound whatever its declaration and the packets that it was sent.** -/
lemma sound_normalizeAll (info : TrackInfo) (ps : List Packet) :
    ((ofInfo info).1.normalizeAll ps).2.Sound := by
  induction ps using List.reverseRecOn with
  | nil => exact sound_ofInfo info
  | append_singleton ps p ih =>
    rw [normalizeAll_concat, normalizeAll_singleton]
    exact sound_normalize p _ ih

/-! ## The ways out of the normalizer -/

/-- How the packet `p` leaves the normalizer. -/
inductive Emits (p : Packet) : Packet → Prop
  /-- The mark at the end of a sequence. -/
  | mark (hkind : p.kind = .endOfSequence) :
    Emits p { p with format := p.format.canonical, fragments := none }
  /-- An access unit that comes with start codes. -/
  | scanned {kind : Nal.UnitKind} (hkind : p.kind = .raw) (hformat : p.format.unitKind? = some kind)
    (hcanonical : p.format.canonical = p.format) :
    Emits p (scanned kind p)
  /-- An access unit that has got start codes for its lengths. -/
  | framed {kind : Nal.UnitKind} {u : Nal.AccessUnit} (hkind : p.kind = .raw)
    (hformat : p.format.unitKind? = some kind)
    (hlengths : p.format = .h264Avcc ∨ p.format = .h265Hvcc) (hframed : u.Framed kind) :
    Emits p (withUnit p u)
  /-- An AAC unit in a frame under a usable configuration. -/
  | packed {config : AudioConfig} {frame : Bytes} (hkind : p.kind = .raw)
    (hformat : p.format = .aacLatm ∨ p.format = .aacRaw) (hvalid : config.isValid = true)
    (hframe : config.frame p.payload = .ok frame) :
    Emits p { p with payload := frame, format := p.format.canonical, keyframe := true }
  /-- An AAC frame that has been checked. -/
  | checked (hkind : p.kind = .raw) (hformat : p.format = .aacAdts)
    (hcheck : checkedAdts p = .ok { p with keyframe := true }) :
    Emits p { p with keyframe := true }
  /-- An access unit of another codec. -/
  | passed (hkind : p.kind = .raw) (hunits : p.format.carriesNalUnits = false)
    (haac : p.format.isAac = false) :
    Emits p { p with fragments := none }

lemma emits_of_normalizeUnit (hn : n.Sound) (hkind : p.kind = .raw)
    (h : (outcome (normalizeUnit p) n).1 = .ok q) : Emits p q := by
  unfold normalizeUnit at h
  split at h
  case h_1 hformat | h_2 hformat =>
    cases h
    apply Emits.scanned hkind
    all_goals
      rw [hformat]
      rfl
  case h_3 hformat | h_4 hformat =>
    obtain ⟨n, -, h⟩ := outcome_bind_eq_ok h
    obtain ⟨u, hu, h⟩ := outcome_bind_eq_ok h
    cases h
    apply Emits.framed hkind
    · rw [hformat]
      rfl
    · simp [hformat]
    · exact Nal.AccessUnit.framed_of_ofLengthPrefixed hu
  case h_5 hformat | h_6 hformat =>
    obtain ⟨n', hn', h⟩ := outcome_bind_eq_ok h
    cases hn'
    obtain ⟨frame, hconvert, h⟩ := outcome_bind_eq_ok h
    cases h
    obtain ⟨config, hvalid, hframe⟩ := Converter.exists_frame_of_convert_raw hn hconvert
    exact .packed hkind (by simp [hformat]) hvalid hframe
  case h_7 hformat =>
    have hq : q = { p with keyframe := true } := eq_of_checkedAdts h
    subst hq
    exact .checked hkind hformat h
  case h_8 hformat | h_9 hformat | h_10 hformat =>
    cases h
    apply Emits.passed hkind
    all_goals
      rw [hformat]
      rfl

/-- **A packet leaves a sound normalizer in one of the six ways.** -/
lemma emits_of_normalize (hn : n.Sound) (h : (outcome (normalize p) n).1 = .ok (some q)) :
    Emits p q := by
  unfold normalize at h
  split at h
  case h_1 =>
    obtain ⟨_, -, h⟩ := outcome_bind_eq_ok h
    cases h
  case h_2 hkind =>
    cases h
    exact .mark hkind
  case h_3 hkind =>
    rw [outcome_map] at h
    cases hu : (outcome (normalizeUnit p) n).1 with
    | error e =>
      rw [hu] at h
      cases h
    | ok r =>
      rw [hu] at h
      cases h
      exact emits_of_normalizeUnit hn hkind hu

/-! ## Formats and indexes -/

namespace Emits

lemma kind_eq (h : Emits p q) : q.kind = p.kind := by
  cases h <;> rfl

/-- Every packet leaves in the canonical framing of its codec. -/
lemma format_eq (h : Emits p q) : q.format = p.format.canonical := by
  cases h with
  | mark | framed | packed => rfl
  | scanned _ _ hcanonical => exact hcanonical.symm
  | checked _ hformat =>
    show p.format = _
    rw [hformat]
    rfl
  | passed _ hunits haac =>
    show p.format = _
    revert hunits haac
    cases p.format <;> decide

/-- An AAC unit keeps its index, even if its payload is replaced. -/
lemma fragments_of_isAac (h : Emits p q) (hkind : p.kind = .raw) (haac : p.format.isAac = true) :
    q.fragments = p.fragments := by
  cases h with
  | mark hmark =>
    rw [hkind] at hmark
    cases hmark
  | scanned _ hformat | framed _ hformat =>
    rw [Format.isAac_eq_false_of_unitKind? hformat] at haac
    cases haac
  | packed | checked => rfl
  | passed _ _ hother =>
    rw [haac] at hother
    cases hother

/-- The other packets leave with an index just if they are access units of NAL units. -/
lemma isSome_fragments_iff (h : Emits p q) (haac : ¬(p.kind = .raw ∧ p.format.isAac = true)) :
    q.fragments.isSome = true ↔ q.kind = .raw ∧ q.format.carriesNalUnits = true := by
  rw [h.kind_eq, h.format_eq, Format.carriesNalUnits_canonical]
  cases h with
  | mark hkind =>
    rw [hkind]
    simp
  | scanned hkind hformat | framed hkind hformat =>
    have hunits := Format.carriesNalUnits_of_unitKind? hformat
    simp [Normalizer.scanned, withUnit, hkind, hunits]
  | packed hkind hformat => exact absurd ⟨hkind, Format.isAac_of_bare hformat⟩ haac
  | checked hkind hformat => exact absurd ⟨hkind, Format.isAac_of_adts hformat⟩ haac
  | passed hkind hunits => simp [hunits]

/-- The index that one of the other packets leaves with is consistent with its payload. -/
lemma consistent (h : Emits p q) (haac : ¬(p.kind = .raw ∧ p.format.isAac = true)) :
    ∀ index ∈ q.fragments, index.Consistent q.payload.length := by
  intro index hindex
  cases h with
  | mark | passed => cases hindex
  | scanned =>
    cases hindex
    exact Nal.consistent_scan _
  | framed _ _ _ hframed =>
    cases hindex
    exact hframed.consistent
  | packed hkind hformat => exact absurd ⟨hkind, Format.isAac_of_bare hformat⟩ haac
  | checked hkind hformat => exact absurd ⟨hkind, Format.isAac_of_adts hformat⟩ haac

end Emits

/-- **Every packet leaves in canonical framing, and with a true index unless it is an AAC unit.**
Let a track be declared and sent packets in any way. A packet that then leaves its normalizer has
the canonical format of its codec. It has an index just if it is an access unit of NAL units, and
the index is consistent with the payload it leaves with, whatever index it came with. An AAC unit
keeps the index that it came with.

**Proof sketch.** The normalizer is sound (`sound_normalizeAll`), so the packet leaves in one of the
six ways. Start codes are scanned, and lengths make way for start codes together with the index of
the framed run; both indexes are consistent with the bytes they are of. -/
theorem fragments_of_normalize (info : TrackInfo) (ps : List Packet)
    (h : (outcome (normalize p) ((ofInfo info).1.normalizeAll ps).2).1 = .ok (some q)) :
    q.kind = p.kind ∧ q.format = p.format.canonical ∧
    (¬(p.kind = .raw ∧ p.format.isAac = true) →
      (q.fragments.isSome = true ↔ q.kind = .raw ∧ q.format.carriesNalUnits = true) ∧
      ∀ index ∈ q.fragments, index.Consistent q.payload.length) ∧
    (p.kind = .raw → p.format.isAac = true → q.fragments = p.fragments) := by
  have hemits : Emits p q := emits_of_normalize (sound_normalizeAll info ps) h
  refine ⟨hemits.kind_eq, hemits.format_eq, fun haac => ⟨?_, ?_⟩, ?_⟩
  · exact hemits.isSome_fragments_iff haac
  · exact hemits.consistent haac
  · exact hemits.fragments_of_isAac

/-- A packet with start codes that comes with the index of another payload. -/
def misindexed : Packet where
  track := 1
  pts := 0
  dts := 0
  timebase := ⟨1, 90000⟩
  format := .h264AnnexB
  kind := .raw
  payload := [0, 0, 1, 0x65, 0x88, 0, 0, 0, 1]
  fragments := some [⟨100, 5⟩, ⟨3, 2⟩]
  keyframe := false

/-- The index of another payload is replaced, and a unit behind the last start code counts even if
it is empty. -/
theorem fragments_of_normalize_misindexed :
    let info : TrackInfo := ⟨1, ⟨1, 90000⟩, .h264AnnexB, none⟩
    let q : Packet := { misindexed with fragments := some [⟨3, 2⟩, ⟨9, 0⟩], keyframe := true }
    (outcome (normalize misindexed) ((ofInfo info).1.normalizeAll [misindexed]).2).1 =
      .ok (some q) ∧
    ∀ index ∈ q.fragments, index.Consistent q.payload.length := by
  intro info q
  have h : (outcome (normalize misindexed) ((ofInfo info).1.normalizeAll [misindexed]).2).1 =
      .ok (some q) := by decide
  exact ⟨h, ((fragments_of_normalize info [misindexed] h).2.2.1 (by decide)).2⟩

/-- An AAC unit that comes with an index of its payload. -/
def indexedAac : Packet where
  track := 1
  pts := 0
  dts := 0
  timebase := ⟨1, 44100⟩
  format := .aacLatm
  kind := .raw
  payload := [0x21, 0x10]
  fragments := some [⟨0, 2⟩]
  keyframe := false

/-- **Not every packet leaves with a true index.** The AAC unit is put behind a header, in a format
without NAL units, and still has the index that now covers part of the header. -/
theorem fragments_of_normalize_stale :
    ¬ ∀ (info : TrackInfo) (ps : List Packet) (p q : Packet),
      (outcome (normalize p) ((ofInfo info).1.normalizeAll ps).2).1 = .ok (some q) →
        (q.fragments.isSome = true ↔ q.kind = .raw ∧ q.format.carriesNalUnits = true) := by
  intro hall
  have h := hall ⟨1, ⟨1, 44100⟩, .aacLatm, some [0x12, 0x10]⟩ [] indexedAac
    { indexedAac with
      format := .aacAdts
      payload := [0xFF, 0xF1, 0x50, 0x80, 0x01, 0x3F, 0xFC, 0x21, 0x10]
      keyframe := true } (by decide +kernel)
  exact absurd h (by decide)

end Normalizer

end LiveMedia
