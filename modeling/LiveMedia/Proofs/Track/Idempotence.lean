import LiveMedia.Proofs.Track.Emission

set_option autoImplicit false

/-!
# Normalizing twice

A packet that has been normalized is settled: it goes through every normalizer as it is, whatever
the track was sent before. The only exception are access units whose lengths made way for start
codes although one of their units holds a start code itself. A scan takes such a unit apart, so the
packet gets another index.

## Main definitions

* `LiveMedia.Normalizer.Settled` — every normalizer leaves the packet as it is.

## Main results

* `LiveMedia.Normalizer.checkedAdts_eq_ok_iff` — which AAC frames are accepted.
* `LiveMedia.Normalizer.normalize_settled` — which normalized packets are settled.
-/

namespace LiveMedia.Normalizer

open Aac Nal

variable {n m : Normalizer} {p q : Packet} {kind : UnitKind}

/-- Every normalizer leaves the packet as it is and stays as it is. -/
def Settled (q : Packet) : Prop :=
  ∀ m, outcome (normalize q) m = (.ok (some q), m)

/-! ## Which packets are settled -/

lemma settled_of_endOfSequence (hkind : q.kind = .endOfSequence)
    (hformat : q.format.canonical = q.format) (hfragments : q.fragments = none) : Settled q := by
  intro m
  obtain ⟨track, pts, dts, timebase, format, kind, payload, fragments, keyframe⟩ := q
  subst hkind hfragments
  unfold normalize
  rw [hformat]
  rfl

/-- Of an access unit, the result of its normalization decides. -/
lemma outcome_normalize_of_raw (hkind : q.kind = .raw)
    (hunit : outcome (normalizeUnit q) m = (.ok p, m)) :
    outcome (normalize q) m = (.ok (some p), m) := by
  unfold normalize
  rw [hkind]
  dsimp only
  rw [outcome_map, hunit]
  rfl

/-- An access unit with start codes is scanned. -/
lemma outcome_normalize_of_unitKind? (hkind : q.kind = .raw)
    (hformat : q.format.unitKind? = some kind) (hcanonical : q.format.canonical = q.format) :
    outcome (normalize q) m = (.ok (some (scanned kind q)), m) := by
  apply outcome_normalize_of_raw hkind
  unfold normalizeUnit
  cases hq : q.format with
  | h264AnnexB | h265AnnexB =>
    rw [hq] at hformat
    cases hformat
    rfl
  | h264Avcc | h265Hvcc =>
    rw [hq] at hcanonical
    cases hcanonical
  | aacAdts | aacLatm | aacRaw | vp8 | opus | unknown =>
    rw [hq] at hformat
    cases hformat

/-- An access unit with start codes is settled just if a scan finds the index that it has, and the
mark that it bears. -/
lemma settled_iff_scanned_eq (hkind : q.kind = .raw) (hformat : q.format.unitKind? = some kind)
    (hcanonical : q.format.canonical = q.format) : Settled q ↔ scanned kind q = q := by
  constructor
  · intro hsettled
    have h := hsettled { info := ⟨0, ⟨0, 0⟩, .unknown, none⟩ }
    rw [outcome_normalize_of_unitKind? hkind hformat hcanonical] at h
    simpa using h
  · intro hscanned m
    rw [outcome_normalize_of_unitKind? hkind hformat hcanonical, hscanned]

/-- A frame is accepted just if its header is valid and it reaches as far as the header says. -/
lemma checkedAdts_eq_ok_iff : checkedAdts p = .ok q ↔
    (∃ header, AdtsHeader.parse p.payload = .ok header ∧ header.isValid = true ∧
      header.frameLength ≤ p.payload.length) ∧ q = { p with keyframe := true } := by
  unfold checkedAdts
  cases AdtsHeader.parse p.payload with
  | error e =>
    constructor
    · exact fun h => by cases h
    · rintro ⟨⟨_, h, -⟩, -⟩
      cases h
  | ok header =>
    simp only [bind, Except.bind]
    split
    case isTrue hrefused =>
      constructor
      · exact fun h => by cases h
      · rintro ⟨⟨header', h, hvalid, hlength⟩, -⟩
        cases h
        simp [hvalid, Nat.not_lt.2 hlength] at hrefused
    case isFalse haccepted =>
      have hheader : header.isValid = true ∧ header.frameLength ≤ p.payload.length := by
        simpa using haccepted
      constructor
      · intro h
        cases h
        exact ⟨⟨header, rfl, hheader⟩, rfl⟩
      · rintro ⟨-, rfl⟩
        rfl

/-- An accepted frame that is marked as a keyframe is settled. -/
lemma settled_of_checkedAdts (hkind : q.kind = .raw) (hformat : q.format = .aacAdts)
    (hcheck : checkedAdts q = .ok q) : Settled q := by
  intro m
  apply outcome_normalize_of_raw hkind
  unfold normalizeUnit
  rw [hformat]
  dsimp only
  rw [outcome_liftM, hcheck]

/-- An access unit of another codec is settled without an index. -/
lemma settled_of_other (hkind : q.kind = .raw) (hunits : q.format.carriesNalUnits = false)
    (haac : q.format.isAac = false) (hfragments : q.fragments = none) : Settled q := by
  intro m
  have hq : { q with fragments := none } = q := by rw [← hfragments]
  apply outcome_normalize_of_raw hkind
  unfold normalizeUnit
  cases hformat : q.format with
  | vp8 | opus | unknown =>
    dsimp only
    rw [outcome_pure, ← hformat, hq]
  | aacAdts | aacLatm | aacRaw =>
    rw [hformat] at haac
    cases haac
  | h264AnnexB | h264Avcc | h265AnnexB | h265Hvcc =>
    rw [hformat] at hunits
    cases hunits

/-! ## What leaves the normalizer -/

/-- A scan of a scanned payload finds the same index. -/
lemma settled_scanned (hkind : p.kind = .raw) (hformat : p.format.unitKind? = some kind)
    (hcanonical : p.format.canonical = p.format) : Settled (scanned kind p) := by
  intro m
  have htwice : scanned kind (scanned kind p) = scanned kind p := rfl
  have h := outcome_normalize_of_unitKind? (q := scanned kind p) (m := m) hkind hformat hcanonical
  rwa [htwice] at h

/-- The frame of a converted access unit is accepted. -/
lemma checkedAdts_of_frame {config : AudioConfig} {frame : Bytes} (hvalid : config.isValid = true)
    (hframe : config.frame p.payload = .ok frame) :
    checkedAdts { p with payload := frame, format := p.format.canonical, keyframe := true } =
      .ok { p with payload := frame, format := p.format.canonical, keyframe := true } := by
  obtain ⟨header, hcarries⟩ := Converter.carries_of_frame hvalid hframe
  rw [checkedAdts_eq_ok_iff]
  exact ⟨⟨header, hcarries.parse, hcarries.isValid, hcarries.frameLength.le⟩, rfl⟩

/-- An access unit in place of lengths is settled just if none of its units holds a start code: then
a scan finds its index and its mark. -/
lemma settled_withUnit_iff {u : AccessUnit} (hkind : p.kind = .raw)
    (hformat : p.format.unitKind? = some kind) (hframed : u.Framed kind) :
    Settled (withUnit p u) ↔ ∀ nal ∈ u.index.units u.payload, CodeFree nal := by
  have hcanonical : (withUnit p u).format.canonical = (withUnit p u).format :=
    Format.canonical_canonical p.format
  have hformat' : (withUnit p u).format.unitKind? = some kind := by
    show p.format.canonical.unitKind? = _
    rw [Format.unitKind?_canonical, hformat]
  have hscan : Settled (withUnit p u) ↔ scanned kind (withUnit p u) = withUnit p u :=
    settled_iff_scanned_eq hkind hformat' hcanonical
  rw [hscan, ← hframed.scan_eq_iff]
  constructor
  · intro hscanned
    have h := congrArg Packet.fragments hscanned
    exact (Option.some.inj h).symm
  · intro hindex
    have hkeyframe := hframed.keyframe
    unfold scanned withUnit
    simp only [Packet.mk.injEq, true_and, Option.some.injEq]
    constructor
    · exact hindex.symm
    · rw [← hindex, ← hkeyframe]

namespace Emits

/-- Lengths make way for start codes and an index, which is that of a scan just if the packet is
settled. -/
lemma settled_iff_of_lengths (h : Emits p q) (hkind : p.kind = .raw)
    (hlengths : p.format = .h264Avcc ∨ p.format = .h265Hvcc) :
    ∃ index, q.fragments = some index ∧
      (index = scan q.payload ↔ ∀ nal ∈ index.units q.payload, CodeFree nal) ∧
      (Settled q ↔ ∀ nal ∈ index.units q.payload, CodeFree nal) := by
  have hunits : p.format.carriesNalUnits = true := by
    rcases hlengths with hformat | hformat <;> rw [hformat] <;> rfl
  have haac : p.format.isAac = false := by
    rcases hlengths with hformat | hformat <;> rw [hformat] <;> rfl
  cases h with
  | mark hmark =>
    rw [hkind] at hmark
    cases hmark
  | scanned _ _ hcanonical =>
    rcases hlengths with hformat | hformat <;> rw [hformat] at hcanonical <;> cases hcanonical
  | framed _ hformat _ hframed =>
    refine ⟨_, rfl, hframed.scan_eq_iff, ?_⟩
    exact settled_withUnit_iff hkind hformat hframed
  | packed _ hformat =>
    rw [Format.isAac_of_bare hformat] at haac
    cases haac
  | checked _ hformat =>
    rw [Format.isAac_of_adts hformat] at haac
    cases haac
  | passed _ hother =>
    rw [hunits] at hother
    cases hother

/-- Everything else is settled when it leaves. -/
lemma settled (h : Emits p q)
    (hlengths : ¬(p.kind = .raw ∧ (p.format = .h264Avcc ∨ p.format = .h265Hvcc))) :
    Settled q := by
  cases h with
  | mark hkind =>
    exact settled_of_endOfSequence hkind (Format.canonical_canonical p.format) rfl
  | scanned hkind hformat hcanonical => exact settled_scanned hkind hformat hcanonical
  | framed hkind _ hformat => exact absurd ⟨hkind, hformat⟩ hlengths
  | packed hkind hformat hvalid hframe =>
    apply settled_of_checkedAdts
    · exact hkind
    · show p.format.canonical = _
      rcases hformat with hformat | hformat <;> rw [hformat] <;> rfl
    · exact checkedAdts_of_frame hvalid hframe
  | checked hkind hformat hcheck =>
    obtain ⟨hheader, -⟩ := checkedAdts_eq_ok_iff.1 hcheck
    apply settled_of_checkedAdts
    · exact hkind
    · exact hformat
    · exact checkedAdts_eq_ok_iff.2 ⟨hheader, rfl⟩
  | passed hkind hunits haac => exact settled_of_other hkind hunits haac rfl

end Emits

/-- **Normalizing twice is normalizing once.** Let a track be declared and sent packets in any way,
and let a packet leave its normalizer.

* If it came with lengths, it has an index, which is that of a scan of its payload just if no unit
  that the index lists holds a start code. In just this case the packet is settled: every
  normalizer, whatever its state, leaves it as it is.
* Every other packet is settled.

**Proof sketch.** The packet left in one of the six ways. A scan of a scanned payload finds the same
index. For a framed run, `AccessUnit.Framed.scan_eq_iff` says when it does, and the mark of the run
is that of the units in the index, those of the configuration included. An AAC unit was put into a
frame under a usable configuration, so its header is valid and tells the length of the frame. -/
theorem normalize_settled (info : TrackInfo) (ps : List Packet)
    (h : (outcome (normalize p) ((ofInfo info).1.normalizeAll ps).2).1 = .ok (some q)) :
    (p.kind = .raw → p.format = .h264Avcc ∨ p.format = .h265Hvcc →
      ∃ index, q.fragments = some index ∧
        (index = scan q.payload ↔ ∀ nal ∈ index.units q.payload, CodeFree nal) ∧
        (Settled q ↔ ∀ nal ∈ index.units q.payload, CodeFree nal)) ∧
    (¬(p.kind = .raw ∧ (p.format = .h264Avcc ∨ p.format = .h265Hvcc)) → Settled q) := by
  have hemits : Emits p q := emits_of_normalize (sound_normalizeAll info ps) h
  exact ⟨hemits.settled_iff_of_lengths, hemits.settled⟩

/-- A packet of an H.264 track with lengths. -/
def avccPacket (kind : PacketKind) (payload : Bytes) : Packet where
  track := 1
  pts := 0
  dts := 0
  timebase := ⟨1, 90000⟩
  format := .h264Avcc
  kind := kind
  payload := payload
  fragments := none
  keyframe := false

/-- A configuration with a sequence and a picture parameter set. -/
def avccHeader : Packet :=
  avccPacket .sequenceHeader [1, 66, 0, 30, 0xFF, 0xE1, 0, 1, 0x67, 1, 0, 1, 0x68]

/-- A keyframe that gets the parameter sets is settled, and a unit with a start code inside is
not. -/
theorem normalize_settled_with_sets :
    let n := ((ofInfo ⟨1, ⟨1, 90000⟩, .h264Avcc, none⟩).1.normalizeAll [avccHeader]).2
    let keyframe : Packet :=
      { avccPacket .raw [0, 0, 0, 1, 0x67, 0, 0, 0, 1, 0x68, 0, 0, 0, 1, 0x65] with
        format := .h264AnnexB
        fragments := some [⟨4, 1⟩, ⟨9, 1⟩, ⟨14, 1⟩]
        keyframe := true }
    let coded : Packet :=
      { avccPacket .raw [0, 0, 0, 1, 0x41, 0, 0, 1] with
        format := .h264AnnexB
        fragments := some [⟨4, 4⟩] }
    (outcome (normalize (avccPacket .raw [0, 0, 0, 1, 0x65])) n).1 = .ok (some keyframe) ∧
    Settled keyframe ∧
    (outcome (normalize (avccPacket .raw [0, 0, 0, 4, 0x41, 0, 0, 1])) n).1 = .ok (some coded) ∧
    ¬Settled coded := by
  intro n keyframe coded
  have hkeyframe : (outcome (normalize (avccPacket .raw [0, 0, 0, 1, 0x65])) n).1 =
      .ok (some keyframe) := by decide +kernel
  have hcoded : (outcome (normalize (avccPacket .raw [0, 0, 0, 4, 0x41, 0, 0, 1])) n).1 =
      .ok (some coded) := by decide +kernel
  obtain ⟨_, hindex, -, hsettled⟩ := (normalize_settled _ _ hkeyframe).1 rfl (.inl rfl)
  obtain ⟨_, hindex', -, hsettled'⟩ := (normalize_settled _ _ hcoded).1 rfl (.inl rfl)
  cases hindex
  cases hindex'
  refine ⟨hkeyframe, hsettled.2 (by decide), hcoded, fun h => ?_⟩
  exact absurd (hsettled'.1 h) (by decide)

end LiveMedia.Normalizer
