import LiveMedia.Proofs.Record
import LiveMedia.Proofs.Track.Emission

set_option autoImplicit false

/-!
# The configurations of a track

A track is told configurations: one by its declaration, if that brings any, and one by each sequence
header. Which of them are accepted does not depend on the track, only on the format and on the
bytes. What a track keeps is the last one that was accepted, and for each codec the last one of that
codec, parsed. An AAC track that has accepted none takes the bytes of its declaration once an access
unit makes it try them, whatever format the declaration gives for them.

## Main definitions

* `LiveMedia.Format.Accepts` — the bytes that are accepted as a configuration in a format.
* `LiveMedia.Normalizer.announced`, `LiveMedia.Normalizer.lastAccepted` — the configurations that a
  track has been told, and the last one that was accepted of some formats.
* `LiveMedia.Normalizer.tried` — the bytes that an AAC track takes from its declaration.
* `LiveMedia.Normalizer.Configured` — what the track keeps of what it has been told.

## Main results

* `LiveMedia.Normalizer.outcome_applyConfig` — a configuration is accepted, or changes nothing.
* `LiveMedia.Normalizer.Configured.normalize` — what one packet makes of the configurations.
* `LiveMedia.Normalizer.configs_normalizeAll` — the configurations after any packets.
-/

namespace LiveMedia

open Aac

/-- The bytes are a configuration in the format. In formats that carry their configuration in band
any bytes are. -/
def Format.Accepts (format : Format) (data : Bytes) : Prop :=
  match format with
  | .h264Avcc => ∃ config, Avc.DecoderConfig.parse data = .ok config
  | .h265Hvcc => ∃ config, Hevc.DecoderConfig.parse data = .ok config
  | .aacAdts | .aacLatm | .aacRaw => AudioConfig.Usable data
  | .h264AnnexB | .h265AnnexB | .vp8 | .opus | .unknown => True

/-- Bytes that are no usable AAC configuration are refused for what is wrong with them. -/
lemma Aac.AudioConfig.isMalformed_refusal (data : Bytes) : (refusal data).IsMalformed := by
  rcases refusal_eq data with h | h
  · exact h ▸ MediaError.isMalformed_truncated
  · exact h ▸ MediaError.isMalformed_invalid _

/-- A parse is decided by its result. -/
instance decidableExistsOk {ε α : Type} (r : Except ε α) : Decidable (∃ a, r = .ok a) :=
  match r with
  | .ok a => .isTrue ⟨a, rfl⟩
  | .error _ => .isFalse nofun

instance (format : Format) (data : Bytes) : Decidable (format.Accepts data) :=
  match format with
  | .h264Avcc => inferInstanceAs (Decidable (∃ _, _ = _))
  | .h265Hvcc => inferInstanceAs (Decidable (∃ _, _ = _))
  | .aacAdts | .aacLatm | .aacRaw => inferInstanceAs (Decidable (AudioConfig.Usable data))
  | .h264AnnexB | .h265AnnexB | .vp8 | .opus | .unknown => .isTrue trivial

/-- An access unit of bare AAC, for which a configuration is needed. -/
def Packet.isBareAac (p : Packet) : Bool :=
  p.kind == .raw && (p.format == .aacLatm || p.format == .aacRaw)

namespace Normalizer

/-! ## What a track is told -/

/-- Bytes that a track is told as its configuration. -/
structure Announcement where
  format : Format
  data : Bytes
  deriving DecidableEq, Repr

/-- What a packet announces. -/
def announcement? (p : Packet) : Option Announcement :=
  if p.kind = .sequenceHeader then some ⟨p.format, p.payload⟩ else none

/-- What the declaration of a track and the packets sent to it announce. -/
def announced (info : TrackInfo) (ps : List Packet) : List Announcement :=
  (info.extradata.map (Announcement.mk info.format)).toList ++ ps.filterMap announcement?

/-- The last configuration in a format of the family that was accepted. -/
def lastAccepted (family : Format → Bool) (info : TrackInfo) (ps : List Packet) : Option Bytes :=
  ((announced info ps).filter fun a => family a.format && decide (a.format.Accepts a.data)).getLast?
    |>.map Announcement.data

/-- The bytes of the declaration, if they are a usable AAC configuration and an access unit has made
the track try them. -/
def tried (info : TrackInfo) (ps : List Packet) : Option Bytes :=
  if ps.any Packet.isBareAac then info.extradata.filter (AudioConfig.Usable ·) else none

variable {info : TrackInfo} {ps : List Packet} {p : Packet} {n : Normalizer} {format : Format}
  {data : Bytes} {family : Format → Bool}

lemma lastAccepted_nil : lastAccepted family info [] =
    info.extradata.filter fun data => family info.format && decide (info.format.Accepts data) := by
  unfold lastAccepted announced
  cases info.extradata with
  | none => rfl
  | some data =>
    simp only [Option.map_some, Option.toList_some, List.filterMap_nil, List.append_nil,
      Option.filter_some, List.filter_cons, List.filter_nil]
    split <;> rfl

/-- A sequence header is the last one of its family if it is accepted. -/
lemma lastAccepted_concat_header (hkind : p.kind = .sequenceHeader) :
    lastAccepted family info (ps ++ [p]) =
      if family p.format = true ∧ p.format.Accepts p.payload then some p.payload
      else lastAccepted family info ps := by
  simp only [lastAccepted, announced, List.filterMap_append, List.filterMap_cons,
    List.filterMap_nil, announcement?, if_pos hkind, ← List.append_assoc, List.filter_append,
    List.filter_cons, List.filter_nil, Bool.and_eq_true, decide_eq_true_eq]
  split
  · rw [List.getLast?_concat, Option.map_some]
  · rw [List.append_nil]

/-- The other packets announce nothing. -/
lemma lastAccepted_concat_of_ne (hkind : p.kind ≠ .sequenceHeader) :
    lastAccepted family info (ps ++ [p]) = lastAccepted family info ps := by
  simp only [lastAccepted, announced, List.filterMap_append, List.filterMap_cons,
    List.filterMap_nil, announcement?, if_neg hkind, List.append_nil]

lemma tried_concat : tried info (ps ++ [p]) =
    if p.isBareAac then info.extradata.filter (AudioConfig.Usable ·) else tried info ps := by
  unfold tried
  rw [List.any_append, List.any_cons, List.any_nil, Bool.or_false]
  cases p.isBareAac <;> simp

/-! ## One configuration -/

/-- The track once it has accepted a configuration. -/
def accepting (n : Normalizer) (format : Format) (data : Bytes) : Normalizer where
  info := n.info
  avc := if format = .h264Avcc then (Avc.DecoderConfig.parse data).toOption else n.avc
  hevc := if format = .h265Hvcc then (Hevc.DecoderConfig.parse data).toOption else n.hevc
  aac := if format.isAac then ⟨(AudioConfig.parse data).toOption⟩ else n.aac
  decoderConfig := some data

lemma outcome_withConverter {α : Type} (step : Converter.Step α) (n : Normalizer) :
    outcome (withConverter step) n =
      ((outcome step n.aac).1, { n with aac := (outcome step n.aac).2 }) :=
  rfl

/-- A usable configuration is put in force, in place of any other one. -/
lemma outcome_configure_of_usable {c : Converter} (h : AudioConfig.Usable data) :
    outcome (Converter.configure data) c = (.ok (), ⟨(AudioConfig.parse data).toOption⟩) := by
  obtain ⟨config, hparse, hvalid⟩ := h
  rw [Converter.configure, outcome_bind, outcome_liftM, hparse]
  exact Converter.outcome_setConfig_eq_ok_iff.2 ⟨hvalid, rfl⟩

/-- A configuration that is not accepted is refused for what is wrong with it and changes nothing. -/
lemma outcome_acceptConfig_of_not (h : ¬format.Accepts data) :
    ∃ e : MediaError, e.IsMalformed ∧ outcome (acceptConfig format data) n = (.error e, n) := by
  cases format with
  | h264Avcc =>
    cases hparse : Avc.DecoderConfig.parse data with
    | ok config => exact absurd ⟨config, hparse⟩ h
    | error e =>
      refine ⟨e, Avc.DecoderConfig.isMalformed_of_parse hparse, ?_⟩
      rw [acceptConfig, outcome_bind, outcome_liftM, hparse]
  | h265Hvcc =>
    cases hparse : Hevc.DecoderConfig.parse data with
    | ok config => exact absurd ⟨config, hparse⟩ h
    | error e =>
      refine ⟨e, Hevc.DecoderConfig.isMalformed_of_parse hparse, ?_⟩
      rw [acceptConfig, outcome_bind, outcome_liftM, hparse]
  | aacAdts | aacLatm | aacRaw =>
    refine ⟨AudioConfig.refusal data, AudioConfig.isMalformed_refusal data, ?_⟩
    rw [acceptConfig, outcome_withConverter, Converter.outcome_configure_of_not_usable h]
  | h264AnnexB | h265AnnexB | vp8 | opus | unknown => exact absurd trivial h

/-- A configuration that is accepted is kept for its codec. -/
lemma outcome_acceptConfig_of_accepts (h : format.Accepts data) :
    outcome (acceptConfig format data) n =
      (.ok (), { n.accepting format data with decoderConfig := n.decoderConfig }) := by
  cases format with
  | h264Avcc | h265Hvcc =>
    obtain ⟨config, hparse⟩ := h
    rw [acceptConfig, outcome_bind, outcome_liftM, hparse]
    simp only [accepting, hparse]
    rfl
  | aacAdts | aacLatm | aacRaw =>
    rw [acceptConfig, outcome_withConverter, outcome_configure_of_usable h]
    rfl
  | h264AnnexB | h265AnnexB | vp8 | opus | unknown => rfl

/-- **A configuration is accepted and kept, or it is refused and changes nothing.** Which of the two
happens does not depend on the track. -/
lemma outcome_applyConfig (format : Format) (data : Bytes) (n : Normalizer) :
    format.Accepts data ∧
        outcome (applyConfig format data) n = (.ok (), n.accepting format data) ∨
      ¬format.Accepts data ∧ ∃ e : MediaError, e.IsMalformed ∧
        outcome (applyConfig format data) n = (.error e, n) := by
  by_cases h : format.Accepts data
  · refine Or.inl ⟨h, ?_⟩
    rw [applyConfig, outcome_bind, outcome_acceptConfig_of_accepts h]
    rfl
  · obtain ⟨e, hmalformed, he⟩ := outcome_acceptConfig_of_not (n := n) h
    refine Or.inr ⟨h, e, hmalformed, ?_⟩
    rw [applyConfig, outcome_bind, he]

/-- A sequence header is absorbed if its configuration is accepted, and refused otherwise. -/
lemma outcome_normalize_header (hkind : p.kind = .sequenceHeader) (n : Normalizer) :
    p.format.Accepts p.payload ∧
        outcome (normalize p) n = (.ok none, n.accepting p.format p.payload) ∨
      ¬p.format.Accepts p.payload ∧ ∃ e : MediaError, e.IsMalformed ∧
        outcome (normalize p) n = (.error e, n) := by
  unfold normalize
  rw [hkind]
  dsimp only
  rw [outcome_bind]
  rcases outcome_applyConfig p.format p.payload n with ⟨h, happly⟩ | ⟨h, e, hmalformed, happly⟩
  · rw [happly]
    exact Or.inl ⟨h, rfl⟩
  · rw [happly]
    exact Or.inr ⟨h, e, hmalformed, rfl⟩

/-! ## One access unit -/

/-- The converter once it has tried the configuration that comes with an access unit. -/
def trying (c : Converter) (extradata : Option Bytes) : Converter :=
  ⟨c.config.or ((extradata.filter (AudioConfig.Usable ·)).bind fun data =>
    (AudioConfig.parse data).toOption)⟩

/-- An access unit puts the configuration that comes with it in force if there is none yet and it is
usable. -/
lemma state_of_convert_raw (payload : Bytes) (extradata : Option Bytes) (c : Converter) :
    (outcome (Converter.convert .raw payload extradata) c).2 = trying c extradata := by
  rw [Converter.outcome_convert_raw]
  obtain ⟨_ | config⟩ := c
  · cases extradata with
    | none =>
      rw [Converter.outcome_pack]
      rfl
    | some data =>
      show (outcome (Converter.configure data >>= fun _ => Converter.pack payload) {}).2 = _
      rw [outcome_bind]
      by_cases h : AudioConfig.Usable data
      · rw [outcome_configure_of_usable h]
        simp only [Converter.outcome_pack, trying, Option.filter_some, decide_eq_true h, if_true,
          Option.bind_some, Option.none_or]
      · rw [Converter.outcome_configure_of_not_usable h]
        simp only [trying, Option.filter_some, decide_eq_false h, Bool.false_eq_true, if_false,
          Option.bind_none, Option.none_or]
  · rw [Converter.outcome_pack]
    rfl

/-- Only access units of bare AAC change what a track keeps, whether they are refused or not. -/
lemma state_of_normalizeUnit (hkind : p.kind = .raw) (n : Normalizer) :
    (outcome (normalizeUnit p) n).2 =
      if p.isBareAac then { n with aac := trying n.aac n.info.extradata } else n := by
  unfold Packet.isBareAac
  rw [hkind]
  unfold normalizeUnit
  split
  case h_1 hformat | h_2 hformat | h_7 hformat | h_8 hformat | h_9 hformat | h_10 hformat =>
    rw [hformat]
    rfl
  case h_3 hformat | h_4 hformat =>
    rw [hformat, outcome_bind, outcome_get]
    dsimp only
    rw [outcome_bind, outcome_liftM]
    split
    · rename_i heq
      cases (Prod.mk.inj heq).2
      rfl
    · rename_i heq
      cases (Prod.mk.inj heq).2
      rfl
  case h_5 hformat | h_6 hformat =>
    rw [hformat, outcome_bind, outcome_get]
    dsimp only
    rw [outcome_bind, outcome_withConverter, ← state_of_convert_raw p.payload]
    cases (outcome (Converter.convert .raw p.payload n.info.extradata) n.aac).1 <;> rfl

/-! ## What a track keeps -/

/-- What a track keeps of the configurations that it has been told: the last one that was accepted,
and parsed the last one of each codec. -/
structure Configured (info : TrackInfo) (last : (Format → Bool) → Option Bytes)
    (tried : Option Bytes) (n : Normalizer) : Prop where
  info_eq : n.info = info
  decoderConfig : n.decoderConfig = last fun _ => true
  avc : n.avc.map .ok = (last (· == .h264Avcc)).map Avc.DecoderConfig.parse
  hevc : n.hevc.map .ok = (last (· == .h265Hvcc)).map Hevc.DecoderConfig.parse
  aac : n.aac.config.map .ok = ((last Format.isAac).or tried).map AudioConfig.parse

variable {last : (Format → Bool) → Option Bytes} {trial : Option Bytes}

lemma configured_empty (info : TrackInfo) : Configured info (fun _ => none) none { info } :=
  ⟨rfl, rfl, rfl, rfl, rfl⟩

/-- A parse that succeeds, with its result and without. -/
lemma map_ok_toOption {ε α : Type} {r : Except ε α} (h : ∃ a, r = .ok a) :
    r.toOption.map .ok = some r := by
  obtain ⟨a, rfl⟩ := h
  rfl

/-- Usable bytes are parsed. -/
lemma map_ok_bind_usable (extradata : Option Bytes) :
    ((extradata.filter (AudioConfig.Usable ·)).bind fun data =>
      (AudioConfig.parse data).toOption).map .ok =
      (extradata.filter (AudioConfig.Usable ·)).map AudioConfig.parse := by
  cases hdata : extradata.filter (AudioConfig.Usable ·) with
  | none => rfl
  | some data =>
    obtain ⟨config, hparse, -⟩ := of_decide_eq_true (Option.filter_eq_some_iff.1 hdata).2
    exact map_ok_toOption ⟨config, hparse⟩

/-- A configuration that is accepted is the last one from now on, also of its codec. -/
lemma Configured.accepting (h : Configured info last trial n) (haccepts : format.Accepts data) :
    Configured info (fun family => if family format then some data else last family) trial
      (n.accepting format data) where
  info_eq := h.info_eq
  decoderConfig := rfl
  avc := by
    by_cases hformat : format = .h264Avcc
    · subst hformat
      exact map_ok_toOption haccepts
    · rw [if_neg (by simpa using hformat), ← h.avc]
      exact congrArg (Option.map _) (if_neg hformat)
  hevc := by
    by_cases hformat : format = .h265Hvcc
    · subst hformat
      exact map_ok_toOption haccepts
    · rw [if_neg (by simpa using hformat), ← h.hevc]
      exact congrArg (Option.map _) (if_neg hformat)
  aac := by
    by_cases hformat : format.isAac = true
    · have husable : AudioConfig.Usable data := by
        cases format <;> first | exact haccepts | cases hformat
      obtain ⟨config, hparse, -⟩ := husable
      rw [if_pos hformat, Option.some_or, Option.map_some]
      simp only [Normalizer.accepting, if_pos hformat]
      exact map_ok_toOption ⟨config, hparse⟩
    · rw [if_neg hformat, ← h.aac]
      simp only [Normalizer.accepting, if_neg hformat]

/-- An access unit of bare AAC has the bytes of the declaration tried, unless a configuration is in
force. -/
lemma Configured.trying (h : Configured info last trial n)
    (htrial : trial = none ∨ trial = info.extradata.filter (AudioConfig.Usable ·)) :
    Configured info last (info.extradata.filter (AudioConfig.Usable ·))
      { n with aac := Normalizer.trying n.aac n.info.extradata } where
  info_eq := h.info_eq
  decoderConfig := h.decoderConfig
  avc := h.avc
  hevc := h.hevc
  aac := by
    have haac := h.aac
    rw [h.info_eq]
    rcases hconfig : n.aac.config with _ | config
    · rw [hconfig, Option.map_none, eq_comm, Option.map_eq_none_iff, Option.or_eq_none_iff] at haac
      rw [haac.1, Option.none_or]
      simp only [Normalizer.trying, hconfig, Option.none_or]
      exact map_ok_bind_usable info.extradata
    · simp only [Normalizer.trying, hconfig, Option.some_or]
      rw [hconfig] at haac
      rw [haac]
      rcases htrial with rfl | rfl
      · rcases hlast : last Format.isAac with _ | data
        · rw [hlast] at haac
          cases haac
        · rfl
      · rfl

/-! ## Packet after packet -/

/-- The configuration of a declaration is accepted, or it is reported and ignored. -/
lemma ofInfo_eq (hdata : info.extradata = some data) :
    info.format.Accepts data ∧
        ofInfo info = (accepting { info } info.format data, []) ∨
      ¬info.format.Accepts data ∧
        ∃ e, ofInfo info = ({ info }, [.unusableExtradata info.track info.format e]) := by
  have hofInfo : ofInfo info = match outcome (applyConfig info.format data) { info } with
      | (.ok (), n) => (n, [])
      | (.error e, n) => (n, [.unusableExtradata info.track info.format e]) := by
    unfold ofInfo
    rw [hdata]
    rfl
  rw [hofInfo]
  rcases outcome_applyConfig info.format data { info } with ⟨haccepts, happly⟩ | ⟨hnot, e, -, happly⟩
  · rw [happly]
    exact Or.inl ⟨haccepts, rfl⟩
  · rw [happly]
    exact Or.inr ⟨hnot, e, rfl⟩

lemma ofInfo_of_none (hdata : info.extradata = none) : ofInfo info = ({ info }, []) := by
  unfold ofInfo
  rw [hdata]

/-- A track is declared with the configuration of its declaration, if that is accepted. -/
lemma configured_ofInfo (info : TrackInfo) :
    Configured info (lastAccepted · info []) (tried info []) (ofInfo info).1 := by
  have htried : tried info [] = none := rfl
  simp only [lastAccepted_nil, htried]
  cases hdata : info.extradata with
  | none =>
    rw [ofInfo_of_none hdata]
    exact configured_empty info
  | some data =>
    rcases ofInfo_eq hdata with ⟨haccepts, heq⟩ | ⟨hnot, e, heq⟩
    · rw [heq]
      simpa only [Option.filter_some, decide_eq_true haccepts, Bool.and_true]
        using (configured_empty info).accepting haccepts
    · rw [heq]
      simpa only [Option.filter_some, decide_eq_false hnot, Bool.and_false, Bool.false_eq_true,
        if_false] using configured_empty info

/-- The configuration of a declaration is reported if it is not accepted. -/
lemma warnings_ofInfo_eq_nil_iff (info : TrackInfo) :
    (ofInfo info).2 = [] ↔ ∀ data ∈ info.extradata, info.format.Accepts data := by
  cases hdata : info.extradata with
  | none => simp [ofInfo_of_none hdata]
  | some data =>
    rcases ofInfo_eq hdata with ⟨haccepts, heq⟩ | ⟨hnot, e, heq⟩
    · simpa [heq] using haccepts
    · simpa [heq] using hnot

lemma tried_eq_or (info : TrackInfo) (ps : List Packet) :
    tried info ps = none ∨ tried info ps = info.extradata.filter (AudioConfig.Usable ·) := by
  unfold tried
  split
  · exact Or.inr rfl
  · exact Or.inl rfl

/-- What one packet makes of the configurations, whether it is refused or not. -/
lemma Configured.normalize (h : Configured info (lastAccepted · info ps) (tried info ps) n) :
    Configured info (lastAccepted · info (ps ++ [p])) (tried info (ps ++ [p]))
      (outcome (normalize p) n).2 := by
  cases hkind : p.kind with
  | sequenceHeader =>
    have hbare : p.isBareAac = false := by simp [Packet.isBareAac, hkind]
    simp only [lastAccepted_concat_header hkind, tried_concat, hbare, Bool.false_eq_true, if_false]
    rcases outcome_normalize_header hkind n with ⟨haccepts, hout⟩ | ⟨hnot, e, -, hout⟩
    · rw [hout]
      simpa only [haccepts, and_true] using h.accepting haccepts
    · rw [hout]
      simpa only [hnot, and_false, if_false] using h
  | endOfSequence =>
    have hbare : p.isBareAac = false := by simp [Packet.isBareAac, hkind]
    have hne : p.kind ≠ .sequenceHeader := by simp [hkind]
    simp only [lastAccepted_concat_of_ne hne, tried_concat, hbare, Bool.false_eq_true, if_false]
    unfold Normalizer.normalize
    rw [hkind]
    exact h
  | raw =>
    have hne : p.kind ≠ .sequenceHeader := by simp [hkind]
    simp only [lastAccepted_concat_of_ne hne, tried_concat]
    unfold Normalizer.normalize
    rw [hkind]
    dsimp only
    rw [outcome_map, state_of_normalizeUnit hkind]
    split
    · exact h.trying (tried_eq_or info ps)
    · exact h

/-- A track keeps what it has been told, whatever its declaration and the packets sent to it. -/
lemma configured_normalizeAll (info : TrackInfo) (ps : List Packet) :
    Configured info (lastAccepted · info ps) (tried info ps)
      ((ofInfo info).1.normalizeAll ps).2 := by
  induction ps using List.reverseRecOn with
  | nil => exact configured_ofInfo info
  | append_singleton ps p ih =>
    rw [normalizeAll_concat, normalizeAll_singleton]
    exact ih.normalize

/-- **A track keeps the last configuration that was accepted, whole and parsed by codec.** Let a
track be declared and sent packets in any way. The bytes it then keeps are those of the last
configuration that was accepted, of its declaration and of the sequence headers. What it keeps for a
codec is the parse of the last one that was accepted of that codec. An AAC track that has accepted
none keeps the parse of the bytes of its declaration, if an access unit has made it try them and
they are usable. The AAC configuration is valid if there is one. Bytes that are not accepted are
reported if they come with the declaration; a sequence header that brings them is refused and leaves
the track as it was, while one that is accepted is absorbed.

**Proof sketch.** What a track keeps is told by what it has been told (`Configured`), from its
declaration on (`configured_ofInfo`), and by every packet (`Configured.normalize`): a header that is
accepted is the last one from then on, one that is refused changes nothing, and of the other packets
only access units of bare AAC have the declaration tried. -/
theorem configs_normalizeAll (info : TrackInfo) (ps : List Packet) :
    let n := ((ofInfo info).1.normalizeAll ps).2
    n.decoderConfig = lastAccepted (fun _ => true) info ps ∧
    n.avc.map .ok = (lastAccepted (· == .h264Avcc) info ps).map Avc.DecoderConfig.parse ∧
    n.hevc.map .ok = (lastAccepted (· == .h265Hvcc) info ps).map Hevc.DecoderConfig.parse ∧
    n.aac.config.map .ok =
      ((lastAccepted Format.isAac info ps).or (tried info ps)).map AudioConfig.parse ∧
    (∀ config ∈ n.aac.config, config.isValid = true) ∧
    ((ofInfo info).2 = [] ↔ ∀ data ∈ info.extradata, info.format.Accepts data) ∧
    ∀ p : Packet, p.kind = .sequenceHeader →
      (p.format.Accepts p.payload → (outcome (normalize p) n).1 = .ok none) ∧
      (¬p.format.Accepts p.payload → ∃ e, outcome (normalize p) n = (.error e, n)) := by
  intro n
  have h : Configured info (lastAccepted · info ps) (tried info ps) n :=
    configured_normalizeAll info ps
  refine ⟨h.decoderConfig, h.avc, h.hevc, h.aac, sound_normalizeAll info ps,
    warnings_ofInfo_eq_nil_iff info, fun p hkind => ?_⟩
  rcases outcome_normalize_header hkind n with ⟨haccepts, hout⟩ | ⟨hnot, e, -, hout⟩
  · exact ⟨fun _ => by rw [hout], absurd haccepts⟩
  · exact ⟨fun haccepts => absurd haccepts hnot, fun _ => ⟨e, hout⟩⟩

end Normalizer

end LiveMedia
