import LiveMedia.Proofs.Aac.Converter
import LiveMedia.Proofs.Track.Normalize

set_option autoImplicit false

/-!
# AAC tracks without a configuration

A track has an AAC configuration once its declaration or a sequence header brings a usable one, and
not before, whatever else it is sent. Until then every raw AAC unit is refused: for the lack of a
configuration if the declaration brings none, and otherwise for what is wrong with the one it brings.

## Main definitions

* `LiveMedia.Packet.ConfiguresAac` — a sequence header with a usable AAC configuration.
* `LiveMedia.Normalizer.Unconfigured` — a track without an AAC configuration.

## Main results

* `LiveMedia.Normalizer.preserves_normalize` — what one packet leaves of such a track.
* `LiveMedia.Normalizer.unconfigured_normalizeAll` — what any packets leave of it.
* `LiveMedia.Normalizer.outcome_normalize_of_unconfigured` — what becomes of a raw AAC unit.
-/

namespace LiveMedia

open Aac

/-- A sequence header whose payload is a usable AAC configuration. -/
def Packet.ConfiguresAac (p : Packet) : Prop :=
  p.kind = .sequenceHeader ∧ p.format.isAac = true ∧ AudioConfig.Usable p.payload

instance (p : Packet) : Decidable p.ConfiguresAac :=
  inferInstanceAs (Decidable (_ ∧ _ ∧ _))

namespace Normalizer

/-- The track was declared like this, and no AAC configuration is in force on it. -/
def Unconfigured (info : TrackInfo) (n : Normalizer) : Prop :=
  n.info = info ∧ n.aac = {}

variable {info : TrackInfo} {p : Packet} {n : Normalizer}

/-! ## What a packet leaves of the track -/

/-- A step of the converter keeps the track without a configuration if it keeps the converter so. -/
lemma preserves_withConverter {α : Type} {step : Converter.Step α}
    (h : (outcome step {}).2 = {}) : Preserves (Unconfigured info) (withConverter step) := by
  rintro n ⟨hinfo, haac⟩
  refine ⟨hinfo, ?_⟩
  show (outcome step n.aac).2 = {}
  rw [haac, h]

/-- A configuration of another codec, or one that is not usable, sets no AAC configuration. -/
lemma preserves_applyConfig {format : Format} {data : Bytes}
    (h : format.isAac = true → ¬AudioConfig.Usable data) :
    Preserves (Unconfigured info) (applyConfig format data) := by
  have haccept : Preserves (Unconfigured info) (acceptConfig format data) := by
    cases format with
    | h264Avcc => exact (Preserves.liftM _).bind fun _ => .modify fun _ hn => hn
    | h265Hvcc => exact (Preserves.liftM _).bind fun _ => .modify fun _ hn => hn
    | aacAdts | aacLatm | aacRaw =>
      have hrefused := Converter.outcome_configure_of_not_usable (c := {}) (h rfl)
      show Preserves _ (withConverter (Converter.configure data))
      exact preserves_withConverter (congrArg Prod.snd hrefused)
    | h264AnnexB | h265AnnexB | vp8 | opus | unknown => exact .pure _
  exact haccept.bind fun _ => .modify fun _ hn => hn

section

variable (hextra : ∀ data ∈ info.extradata, ¬AudioConfig.Usable data)

include hextra

/-- A raw AAC unit of a track without a configuration is refused and changes nothing. -/
lemma outcome_normalizeUnit_of_unconfigured (hn : Unconfigured info n)
    (hformat : p.format = .aacLatm ∨ p.format = .aacRaw) :
    outcome (normalizeUnit p) n =
      (.error (info.extradata.elim .missingConfig AudioConfig.refusal), n) := by
  obtain ⟨info', avc, hevc, aac, decoderConfig⟩ := n
  obtain ⟨rfl, rfl⟩ : info' = info ∧ aac = {} := hn
  have hrefused := Converter.outcome_convert_raw_none p.payload hextra
  have hconvert : outcome (withConverter (Converter.convert .raw p.payload info'.extradata))
      ⟨info', avc, hevc, {}, decoderConfig⟩ =
      ((outcome (Converter.convert .raw p.payload info'.extradata) {}).1,
        ⟨info', avc, hevc, (outcome (Converter.convert .raw p.payload info'.extradata) {}).2,
          decoderConfig⟩) :=
    rfl
  rw [hrefused] at hconvert
  unfold normalizeUnit
  rcases hformat with h | h
  all_goals
    rw [h]
    dsimp only
    rw [outcome_bind, outcome_get]
    dsimp only
    rw [outcome_bind, hconvert]

/-- An access unit sets no configuration, unless the declaration brings a usable one. -/
lemma preserves_normalizeUnit (p : Packet) :
    Preserves (Unconfigured info) (normalizeUnit p) := by
  by_cases hraw : p.format = .aacLatm ∨ p.format = .aacRaw
  · intro n hn
    rw [outcome_normalizeUnit_of_unconfigured hextra hn hraw]
    exact hn
  · unfold normalizeUnit
    cases hformat : p.format with
    | h264AnnexB | h265AnnexB | vp8 | opus | unknown => exact .pure _
    | h264Avcc => exact Preserves.get.bind fun _ => (Preserves.liftM _).bind fun _ => .pure _
    | h265Hvcc => exact Preserves.get.bind fun _ => (Preserves.liftM _).bind fun _ => .pure _
    | aacAdts => exact .liftM _
    | aacLatm => exact absurd (Or.inl hformat) hraw
    | aacRaw => exact absurd (Or.inr hformat) hraw

/-- A packet that brings no usable AAC configuration leaves the track without one. -/
lemma preserves_normalize (h : ¬p.ConfiguresAac) :
    Preserves (Unconfigured info) (normalize p) := by
  unfold normalize
  cases hkind : p.kind with
  | sequenceHeader =>
    have hconfig : p.format.isAac = true → ¬AudioConfig.Usable p.payload :=
      fun haac husable => h ⟨hkind, haac, husable⟩
    exact (preserves_applyConfig hconfig).bind fun _ => .pure _
  | raw => exact (preserves_normalizeUnit hextra p).map some
  | endOfSequence => exact .pure _

/-- A track is declared without an AAC configuration, unless the declaration brings a usable one. -/
lemma unconfigured_ofInfo : Unconfigured info (ofInfo info).1 := by
  unfold ofInfo
  cases hdata : info.extradata with
  | none => exact ⟨rfl, rfl⟩
  | some data =>
    have hkeeps : Preserves (Unconfigured info) (applyConfig info.format data) :=
      preserves_applyConfig fun _ => hextra data hdata
    have hkept := hkeeps { info } ⟨rfl, rfl⟩
    show Unconfigured info (match outcome (applyConfig info.format data) { info } with
      | (.ok (), n) => ((n, []) : Normalizer × List Warning)
      | (.error _, n) => (n, _)).1
    rcases happly : outcome (applyConfig info.format data) { info } with ⟨_ | _, n⟩ <;>
      rw [happly] at hkept
    · exact hkept
    · exact hkept

/-- Whatever packets a track is sent, it has no AAC configuration before the first one that brings a
usable one. -/
lemma unconfigured_normalizeAll {ps : List Packet} (hps : ∀ p ∈ ps, ¬p.ConfiguresAac) :
    Unconfigured info ((ofInfo info).1.normalizeAll ps).2 := by
  induction ps using List.reverseRecOn with
  | nil => exact unconfigured_ofInfo hextra
  | append_singleton ps p ih =>
    rw [normalizeAll_concat, normalizeAll_singleton]
    refine preserves_normalize hextra (hps p (by simp)) _ (ih fun q hq => hps q ?_)
    exact List.mem_append_left _ hq

/-- A raw AAC unit of a track without a configuration is refused. -/
lemma outcome_normalize_of_unconfigured (hn : Unconfigured info n) (hkind : p.kind = .raw)
    (hformat : p.format = .aacLatm ∨ p.format = .aacRaw) :
    outcome (normalize p) n =
      (.error (info.extradata.elim .missingConfig AudioConfig.refusal), n) := by
  unfold normalize
  rw [hkind]
  dsimp only
  rw [outcome_map, outcome_normalizeUnit_of_unconfigured hextra hn hformat]
  rfl

end

end Normalizer

end LiveMedia
