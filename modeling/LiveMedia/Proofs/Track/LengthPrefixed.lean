import LiveMedia.Proofs.Nal.AccessUnit
import LiveMedia.Proofs.Nal.LengthPrefix
import LiveMedia.Proofs.RecordLayout
import LiveMedia.Proofs.Track.Configuration
import LiveMedia.Proofs.Track.Idempotence

set_option autoImplicit false

/-!
# Tracks in length-prefixed framing

A record of the decoder configuration tells how wide the lengths in front of the units are, and
which parameter sets go in front of a keyframe that has none. In force is the last record that was
accepted, of the declaration of the track and of its sequence headers.

## Main definitions

* `LiveMedia.Codec` — the two codecs, with the types of their units.
* `LiveMedia.Codec.Setup`, `LiveMedia.Codec.setup?` — what a record tells.
* `LiveMedia.Codec.setup` — what is in force after records have been announced.
* `LiveMedia.Codec.Encodes` — units behind their lengths.

## Main results

* `LiveMedia.Codec.setup?_eq_some_iff` — the bytes that are accepted as a record.
* `LiveMedia.Normalizer.setupOf_normalizeAll` — what is in force on a track.
* `LiveMedia.Normalizer.normalize_lengthPrefixed` — what becomes of an access unit.
-/

namespace LiveMedia

/-- A codec whose access units are delivered in length-prefixed framing. -/
inductive Codec where
  | avc
  | hevc
  deriving DecidableEq, Repr

namespace Codec

/-- The framing in which access units are delivered. -/
def format : Codec → Format
  | avc => .h264Avcc
  | hevc => .h265Hvcc

/-- The framing in which they leave. -/
def canonical : Codec → Format
  | avc => .h264AnnexB
  | hevc => .h265AnnexB

/-! ## Units -/

/-- The type of a unit: the low five bits of its first byte, or for H.265 the six bits behind the first
one of a header of two bytes. -/
def typeCode? : Codec → Bytes → Option Nat
  | avc, b :: _ => some (b.toNat % 32)
  | hevc, b :: _ :: _ => some (b.toNat / 2 % 64)
  | _, _ => none

/-- Decoding can start at the unit: it is of an IDR picture, or for H.265 of a random access point. -/
def isKeyframe (codec : Codec) (nal : Bytes) : Bool :=
  (codec.typeCode? nal).any fun type =>
    match codec with
    | avc => type == 5
    | hevc => decide (16 ≤ type ∧ type ≤ 23)

/-- The unit holds a parameter set. -/
def isParameterSet (codec : Codec) (nal : Bytes) : Bool :=
  (codec.typeCode? nal).any fun type =>
    match codec with
    | avc => type == 7 || type == 8
    | hevc => decide (32 ≤ type ∧ type ≤ 34)

/-- How access units are put together from units of the codec. -/
def kind : Codec → Nal.UnitKind
  | avc => Avc.NalType.kind
  | hevc => Hevc.NalType.kind

/-- The meanings of the H.264 types that matter here. -/
lemma avc_ofCode : ∀ code < 32,
    (Avc.NalType.ofCode code).any Avc.NalType.isKeyframe = (code == 5) ∧
      (Avc.NalType.ofCode code).any Avc.NalType.isParameterSet = (code == 7 || code == 8) := by
  decide

/-- The meanings of the H.265 types that matter here. -/
lemma hevc_ofCode : ∀ code < 64,
    (Hevc.NalType.ofCode code).isKeyframe = decide (16 ≤ code ∧ code ≤ 23) ∧
      (Hevc.NalType.ofCode code).isParameterSet = decide (32 ≤ code ∧ code ≤ 34) := by
  decide

variable {codec : Codec} {data : Bytes}

/-- The number of its type tells whether decoding can start at a unit. -/
lemma kind_isKeyframe : codec.kind.isKeyframe = codec.isKeyframe := by
  funext nal
  match codec, nal with
  | avc, [] | hevc, [] | hevc, [_] => rfl
  | avc, b :: nal => exact (avc_ofCode _ (Nat.mod_lt _ (by decide))).1
  | hevc, b :: c :: nal => exact (hevc_ofCode _ (Nat.mod_lt _ (by decide))).1

/-- The number of its type tells whether a unit holds a parameter set. -/
lemma kind_isParameterSet : codec.kind.isParameterSet = codec.isParameterSet := by
  funext nal
  match codec, nal with
  | avc, [] | hevc, [] | hevc, [_] => rfl
  | avc, b :: nal => exact (avc_ofCode _ (Nat.mod_lt _ (by decide))).2
  | hevc, b :: c :: nal => exact (hevc_ofCode _ (Nat.mod_lt _ (by decide))).2

/-- The units put in front of others: the parameter sets `sets` if there is a unit at which decoding
can start and no parameter set. -/
def injected (codec : Codec) (sets nals : List Bytes) : List Bytes :=
  if nals.any codec.isKeyframe && !nals.any codec.isParameterSet then sets else []

lemma injectedSets_kind (sets nals : List Bytes) :
    Nal.injectedSets codec.kind sets nals = codec.injected sets nals := by
  rw [Nal.injectedSets, kind_isKeyframe, kind_isParameterSet]
  rfl

/-! ## Records -/

/-- What a record tells about access units. -/
structure Setup where
  /-- The width of the lengths. -/
  lengthSize : Nat
  /-- The parameter sets for keyframes that have none. -/
  sets : List Bytes
  deriving DecidableEq, Repr

/-- What is in force before there is a record. -/
def Setup.initial : Setup :=
  ⟨4, []⟩

/-- What an H.264 configuration tells. -/
def Setup.ofAvc (config : Avc.DecoderConfig) : Setup :=
  ⟨config.lengthSize, config.allSets⟩

/-- What an H.265 configuration tells. -/
def Setup.ofHevc (config : Hevc.DecoderConfig) : Setup :=
  ⟨config.lengthSize, config.parameterSets⟩

/-- What the bytes of a record tell, if they are accepted. -/
def setup? (codec : Codec) (data : Bytes) : Option Setup :=
  match codec with
  | avc => (Avc.DecoderConfig.parse data).toOption.map .ofAvc
  | hevc => (Hevc.DecoderConfig.parse data).toOption.map .ofHevc

/-- The bytes are a record of the codec that tells this: for H.264 all sequence parameter sets, then
all picture parameter sets, and for H.265 the parameter sets among the units, in record order. -/
def IsRecord (codec : Codec) (data : Bytes) (s : Setup) : Prop :=
  match codec with
  | avc => ∃ x : Avc.DecoderConfig.Layout, x.WellFormed ∧ x.bytes = data ∧
      ⟨x.lengthSize, x.sps ++ x.pps⟩ = s
  | hevc => ∃ x : Hevc.DecoderConfig.Layout, x.WellFormed ∧ x.bytes = data ∧
      ⟨x.lengthSize, x.units.filter hevc.isParameterSet⟩ = s

lemma toOption_eq_some_iff {ε α : Type} {r : Except ε α} {a : α} :
    r.toOption = some a ↔ r = .ok a := by
  cases r <;> simp [Except.toOption]

/-- **The bytes that are accepted are the records of the codec.** -/
theorem setup?_eq_some_iff {s : Setup} : codec.setup? data = some s ↔ codec.IsRecord data s := by
  cases codec with
  | avc =>
    simp only [setup?, Option.map_eq_some_iff, toOption_eq_some_iff,
      Avc.DecoderConfig.parse_eq_ok_iff]
    constructor
    · rintro ⟨_, ⟨x, hx, rfl, rfl⟩, rfl⟩
      exact ⟨x, hx, rfl, rfl⟩
    · rintro ⟨x, hx, rfl, rfl⟩
      exact ⟨_, ⟨x, hx, rfl, rfl⟩, rfl⟩
  | hevc =>
    have hkind : Hevc.NalType.kind.isParameterSet = hevc.isParameterSet :=
      @kind_isParameterSet hevc
    simp only [setup?, Option.map_eq_some_iff, toOption_eq_some_iff,
      Hevc.DecoderConfig.parse_eq_ok_iff, Setup.ofHevc, Hevc.DecoderConfig.parameterSets, hkind]
    constructor
    · rintro ⟨_, ⟨x, hx, rfl, rfl⟩, rfl⟩
      exact ⟨x, hx, rfl, rfl⟩
    · rintro ⟨x, hx, rfl, rfl⟩
      exact ⟨_, ⟨x, hx, rfl, rfl⟩, rfl⟩

/-- A track accepts the records of its codec. -/
lemma accepts_format_iff : codec.format.Accepts data ↔ ∃ s, codec.setup? data = some s := by
  cases codec <;> simp [format, Format.Accepts, setup?, toOption_eq_some_iff]

/-- Lengths are one to four bytes wide. -/
lemma lengthSize_of_setup? {s : Setup} (h : codec.setup? data = some s) :
    1 ≤ s.lengthSize ∧ s.lengthSize ≤ 4 := by
  cases codec with
  | avc =>
    obtain ⟨x, -, -, rfl⟩ := setup?_eq_some_iff.1 h
    simp only [Avc.DecoderConfig.Layout.lengthSize]
    omega
  | hevc =>
    obtain ⟨x, -, -, rfl⟩ := setup?_eq_some_iff.1 h
    simp only [Hevc.DecoderConfig.Layout.lengthSize]
    omega

/-! ## What is in force -/

open Normalizer (Announcement)

/-- What is in force behind an announcement: a record of the codec takes the place of what was in
force before, unless it is not accepted. -/
def after (codec : Codec) (s : Setup) (a : Announcement) : Setup :=
  if a.format = codec.format then (codec.setup? a.data).getD s else s

/-- What is in force behind announcements. -/
def setup (codec : Codec) (told : List Announcement) : Setup :=
  told.foldl codec.after .initial

/-- A record that is accepted takes the place of what was in force; nothing else does. -/
lemma after_eq_or (s : Setup) (a : Announcement) : codec.after s a = s ∨
    a.format = codec.format ∧ ∃ s', codec.setup? a.data = some s' ∧ codec.after s a = s' := by
  unfold after
  split
  · next hformat =>
    cases h : codec.setup? a.data with
    | none => exact Or.inl rfl
    | some s' => exact Or.inr ⟨hformat, s', rfl, rfl⟩
  · exact Or.inl rfl

@[simp] lemma setup_concat (told : List Announcement) (a : Announcement) :
    codec.setup (told ++ [a]) = codec.after (codec.setup told) a := by
  rw [setup, List.foldl_append]
  rfl

/-- Whatever is announced, lengths are one to four bytes wide. -/
lemma lengthSize_setup (codec : Codec) (told : List Announcement) :
    1 ≤ (codec.setup told).lengthSize ∧ (codec.setup told).lengthSize ≤ 4 := by
  induction told using List.reverseRecOn with
  | nil => exact ⟨Nat.le_add_left 1 3, Nat.le_refl 4⟩
  | append_singleton told a ih =>
    rw [setup_concat]
    rcases codec.after_eq_or (codec.setup told) a with h | ⟨-, s, hs, h⟩
    · rwa [h]
    · rw [h]
      exact lengthSize_of_setup? hs

/-! ## Units behind their lengths -/

/-- The payload is a run of units, each of them behind its length in `width` bytes, which can hold
it. -/
def Encodes (width : Nat) (nals : List Bytes) (payload : Bytes) : Prop :=
  (∀ nal ∈ nals, nal.length < 256 ^ width) ∧
    payload = nals.flatMap fun nal => Bytes.ofNatBE width nal.length ++ nal

end Codec

/-- A width of one to four bytes is kept. -/
lemma Nal.PrefixWidth.bytes_clamp {n : Nat} (hpos : 1 ≤ n) (hle : n ≤ 4) :
    (PrefixWidth.clamp n).bytes = n := by
  simp only [PrefixWidth.clamp]
  omega

/-- Units are read from the payloads that they are written in. -/
lemma Nal.readLengthPrefixed_eq_ok_iff_encodes {width : PrefixWidth} {nals : List Bytes}
    {payload : Bytes} :
    readLengthPrefixed width payload = .ok nals ↔ Codec.Encodes width.bytes nals payload := by
  rw [readLengthPrefixed_eq_ok_iff, Codec.Encodes, and_comm, @eq_comm _ _ payload]
  rfl

lemma Codec.readLengthPrefixed_eq_ok_iff {width : Nat} (hpos : 1 ≤ width) (hle : width ≤ 4)
    {nals : List Bytes} {payload : Bytes} :
    Nal.readLengthPrefixed (.clamp width) payload = .ok nals ↔ Encodes width nals payload := by
  rw [Nal.readLengthPrefixed_eq_ok_iff_encodes, Nal.PrefixWidth.bytes_clamp hpos hle]

namespace Normalizer

variable {codec : Codec} {p : Packet} {n : Normalizer}

open Codec

/-! ## The track -/

/-- What is in force on a track. -/
def setupOf (codec : Codec) (n : Normalizer) : Setup :=
  match codec with
  | .avc => n.avc.elim .initial .ofAvc
  | .hevc => n.hevc.elim .initial .ofHevc

/-- What is in force on a track that has accepted a configuration. -/
lemma setupOf_accepting {format : Format} {data : Bytes} (h : format.Accepts data) :
    setupOf codec (n.accepting format data) = codec.after (setupOf codec n) ⟨format, data⟩ := by
  unfold Codec.after
  split
  · next hformat =>
    subst hformat
    cases codec with
    | avc =>
      obtain ⟨config, hparse⟩ := h
      simp only [setupOf, accepting, setup?, hparse]
      rfl
    | hevc =>
      obtain ⟨config, hparse⟩ := h
      simp only [setupOf, accepting, setup?, hparse]
      rfl
  · next hformat =>
    cases codec <;> exact congrArg (Option.elim · _ _) (if_neg hformat)

/-- A configuration that is not accepted is no record. -/
lemma after_of_not_accepts {format : Format} {data : Bytes} (h : ¬format.Accepts data) (s : Setup) :
    codec.after s ⟨format, data⟩ = s := by
  rcases codec.after_eq_or s ⟨format, data⟩ with hsame | ⟨hformat, s', hs', -⟩
  · exact hsame
  · refine absurd ?_ h
    dsimp only at hformat
    rw [hformat]
    exact accepts_format_iff.2 ⟨s', hs'⟩

/-- What is in force changes by what is announced, and by nothing else. -/
lemma setupOf_normalize (codec : Codec) (p : Packet) (n : Normalizer) :
    setupOf codec (outcome (normalize p) n).2 =
      (announcement? p).elim (setupOf codec n) (codec.after (setupOf codec n)) := by
  unfold announcement?
  cases hkind : p.kind with
  | sequenceHeader =>
    rw [if_pos rfl, Option.elim_some]
    rcases outcome_normalize_header hkind n with ⟨haccepts, hout⟩ | ⟨hnot, e, -, hout⟩
    · rw [hout, setupOf_accepting haccepts]
    · rw [hout, after_of_not_accepts hnot]
  | endOfSequence =>
    rw [if_neg (by decide), Option.elim_none]
    unfold normalize
    rw [hkind]
    rfl
  | raw =>
    rw [if_neg (by decide), Option.elim_none]
    unfold normalize
    rw [hkind]
    dsimp only
    rw [outcome_map, state_of_normalizeUnit hkind]
    -- only the AAC converter may have changed
    split <;> cases codec <;> rfl

lemma setupOf_ofInfo (codec : Codec) (info : TrackInfo) :
    setupOf codec (ofInfo info).1 = codec.setup (announced info []) := by
  have hinitial : setupOf codec { info } = .initial := by
    cases codec <;> rfl
  cases hdata : info.extradata with
  | none =>
    rw [ofInfo_of_none hdata, hinitial, announced, hdata]
    rfl
  | some data =>
    have htold : codec.setup (announced info []) = codec.after .initial ⟨info.format, data⟩ := by
      rw [announced, hdata]
      rfl
    rw [htold]
    rcases ofInfo_eq hdata with ⟨haccepts, heq⟩ | ⟨hnot, e, heq⟩
    · rw [heq, setupOf_accepting haccepts, hinitial]
    · rw [heq, after_of_not_accepts hnot, hinitial]

/-- **In force is what the announcements have put in force**, whatever packets came between them. -/
theorem setupOf_normalizeAll (codec : Codec) (info : TrackInfo) (ps : List Packet) :
    setupOf codec ((ofInfo info).1.normalizeAll ps).2 = codec.setup (announced info ps) := by
  induction ps using List.reverseRecOn with
  | nil => exact setupOf_ofInfo codec info
  | append_singleton ps p ih =>
    rw [normalizeAll_concat, normalizeAll_singleton]
    dsimp only
    rw [setupOf_normalize, ih]
    have htold : announced info (ps ++ [p]) = announced info ps ++ (announcement? p).toList := by
      rw [announced, announced, List.filterMap_append, List.append_assoc]
      congr 2
    rw [htold]
    cases announcement? p with
    | none => rw [Option.toList_none, List.append_nil, Option.elim_none]
    | some a => rw [Option.toList_some, setup_concat, Option.elim_some]

/-! ## Access units -/

/-- An access unit that is known replaces the packet. -/
lemma outcome_withUnit (r : Except MediaError Nal.AccessUnit) (p : Packet) (n : Normalizer) :
    outcome (do
      let u ← r
      pure (withUnit p u) : Step Packet) n = (r.map (withUnit p), n) := by
  cases r <;> rfl

/-- An access unit is read and completed by what is in force, and leaves the track as it is. -/
lemma outcome_normalize_lengths (hformat : p.format = codec.format) (hkind : p.kind = .raw)
    (n : Normalizer) : outcome (normalize p) n =
      ((Nal.AccessUnit.ofLengthPrefixed codec.kind (.clamp (setupOf codec n).lengthSize)
        (setupOf codec n).sets p.payload).map fun u => some (withUnit p u), n) := by
  have hunit : outcome (normalizeUnit p) n =
      ((Nal.AccessUnit.ofLengthPrefixed codec.kind (.clamp (setupOf codec n).lengthSize)
        (setupOf codec n).sets p.payload).map (withUnit p), n) := by
    unfold normalizeUnit
    rw [hformat]
    cases codec with
    | avc =>
      refine (outcome_withUnit (Avc.toByteStream p.payload _ n.avc) p n).trans ?_
      unfold setupOf
      cases n.avc <;> rfl
    | hevc =>
      refine (outcome_withUnit (Hevc.toByteStream p.payload _ n.hevc) p n).trans ?_
      unfold setupOf
      cases n.hevc <;> rfl
  unfold normalize
  rw [hkind]
  dsimp only
  rw [outcome_map, hunit]
  cases Nal.AccessUnit.ofLengthPrefixed codec.kind _ _ p.payload <;> rfl

/-- **An access unit behind lengths leaves behind start codes.** Let a track be declared and sent
packets in any way, and let `s` be what the records among them have put in force, of which the last
one that was accepted counts. An access unit then is refused if its payload is no run of units behind
lengths of that width. If it is, its units leave behind start codes with an index that leads to each
of them, and it is marked as a keyframe just if decoding can start at one of them. In front of them
are all parameter sets of the record if decoding can start at a unit and no parameter set is there.
The bytes that are accepted as a record are those that are written as one, lengths are one to four
bytes wide, and no access unit changes what is in force.

**Proof sketch.** What is in force on the track is what the announcements have put in force
(`setupOf_normalizeAll`), and by this the access unit is read (`outcome_normalize_lengths`). Units
are read just from the payloads that they are written in (`readLengthPrefixed_eq_ok_iff`), and the
index of a framed run leads to its units (`Framing.units_frame`). -/
theorem normalize_lengthPrefixed (codec : Codec) (info : TrackInfo) (ps : List Packet) {p : Packet}
    (hformat : p.format = codec.format) (hkind : p.kind = .raw) :
    let n := ((ofInfo info).1.normalizeAll ps).2
    let s := codec.setup (announced info ps)
    (∀ data r, codec.setup? data = some r ↔ codec.IsRecord data r) ∧
    (1 ≤ s.lengthSize ∧ s.lengthSize ≤ 4) ∧
    (∀ nals, Encodes s.lengthSize nals p.payload →
      let units := codec.injected s.sets nals ++ nals
      let payload := units.flatMap ([0, 0, 0, 1] ++ ·)
      let index := (Nal.Framing.startCode .long).indexFrom 0 units
      let q := { p with
        payload
        fragments := some index
        keyframe := nals.any codec.isKeyframe
        format := codec.canonical }
      index.units payload = units ∧ outcome (normalize p) n = (.ok (some q), n)) ∧
    ((¬∃ nals, Encodes s.lengthSize nals p.payload) →
      ∃ e, outcome (normalize p) n = (.error e, n)) := by
  intro n s
  have hforce : setupOf codec n = s := setupOf_normalizeAll codec info ps
  obtain ⟨hpos, hle⟩ := codec.lengthSize_setup (announced info ps)
  have hout := outcome_normalize_lengths hformat hkind n
  rw [hforce] at hout
  refine ⟨fun _ _ => setup?_eq_some_iff, ⟨hpos, hle⟩, fun nals hnals => ?_, fun hnone => ?_⟩
  · intro units payload index q
    have hread := (Codec.readLengthPrefixed_eq_ok_iff hpos hle).2 hnals
    have hunit : Nal.AccessUnit.ofLengthPrefixed codec.kind (.clamp s.lengthSize) s.sets p.payload =
        .ok ⟨payload, index, nals.any codec.isKeyframe⟩ := by
      refine Nal.AccessUnit.ofLengthPrefixed_eq_ok_iff.2 ⟨nals, hread, ?_⟩
      rw [injectedSets_kind, kind_isKeyframe]
      rfl
    have hcanonical : p.format.canonical = codec.canonical := by
      rw [hformat]
      cases codec <;> rfl
    refine ⟨(Nal.Framing.startCode .long).units_frame units, ?_⟩
    rw [hout, hunit, Except.map, withUnit, hcanonical]
  · cases hunit : Nal.AccessUnit.ofLengthPrefixed codec.kind (.clamp s.lengthSize) s.sets
        p.payload with
    | error e => exact ⟨e, by rw [hout, hunit]; rfl⟩
    | ok u =>
      obtain ⟨nals, hread, -⟩ := Nal.AccessUnit.ofLengthPrefixed_eq_ok_iff.1 hunit
      exact absurd ⟨nals, (Codec.readLengthPrefixed_eq_ok_iff hpos hle).1 hread⟩ hnone

/-- A configuration with lengths of two bytes. -/
def narrowRecord : Bytes :=
  [1, 66, 0, 30, 0xFD, 0xE1, 0, 2, 0x67, 2, 1, 0, 2, 0x68, 2]

/-- A keyframe gets the parameter sets of the last record that was accepted, and is read by its lengths:
not by those of the declaration, and not by those of a record that was refused since. -/
theorem normalize_lengthPrefixed_reconfigured :
    let info : TrackInfo := ⟨1, ⟨1, 90000⟩, .h264Avcc, some avccHeader.payload⟩
    let ps := [avccPacket .sequenceHeader narrowRecord, avccPacket .sequenceHeader [2]]
    let p := avccPacket .raw [0, 1, 9, 0, 0, 0, 2, 0x65, 0x88]
    p.format = Codec.avc.format ∧ p.kind = .raw ∧
    Codec.avc.setup (announced info ps) = ⟨2, [[0x67, 2], [0x68, 2]]⟩ ∧
    (outcome (normalize p) ((ofInfo info).1.normalizeAll ps).2).1 = .ok (some { p with
      payload := [0, 0, 0, 1, 0x67, 2, 0, 0, 0, 1, 0x68, 2, 0, 0, 0, 1, 9, 0, 0, 0, 1, 0, 0, 0, 1,
        0x65, 0x88]
      fragments := some [⟨4, 2⟩, ⟨10, 2⟩, ⟨16, 1⟩, ⟨21, 0⟩, ⟨25, 2⟩]
      keyframe := true
      format := .h264AnnexB }) := by
  intro info ps p
  have hsetup : Codec.avc.setup (announced info ps) = ⟨2, [[0x67, 2], [0x68, 2]]⟩ := by
    decide +kernel
  obtain ⟨-, -, hunits, -⟩ :=
    normalize_lengthPrefixed .avc info ps (rfl : p.format = Codec.avc.format) rfl
  rw [hsetup] at hunits
  obtain ⟨-, hout⟩ := hunits [[9], [], [0x65, 0x88]] ⟨by decide, rfl⟩
  exact ⟨rfl, rfl, hsetup, congrArg Prod.fst hout⟩

end Normalizer

end LiveMedia
