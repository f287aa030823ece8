import LiveMedia.Proofs.Nal.CheckedIndex
import LiveMedia.Proofs.Nal.Emulation
import LiveMedia.Proofs.Track.LengthPrefixed

set_option autoImplicit false

/-!
# What the conversions write

Six functions write units anew: between start codes and lengths in both directions, from an index
that is known, with one more unit at the end, and the access units of the two codecs. All of them
write a run of units, each behind its header, and an index that tells just where the units are. From
the index of a scan the same is written as from the bytes, but for the units without a byte, which
only the scan leaves out.

## Main definitions

* `LiveMedia.Nal.Exact` — the payload is a run of units, and the index tells just where they are.
* `LiveMedia.Nal.headersFor` — the headers with which a unit is added.

## Main results

* `LiveMedia.Nal.exact_frame` — a framed run is.
* `LiveMedia.Nal.reframed_exact` — what each of the functions writes.
* `LiveMedia.Nal.lengthPrefixedOfFragments_scan` — when the way by a known index ends where the way
  by a scan does.
-/

namespace LiveMedia.Nal

/-! ## Exact indexes -/

/-- The payload consists of the units behind their headers, and the index tells just where the units
are. -/
structure Exact (framing : Framing) (nals : List Bytes) (out : IndexedPayload) : Prop where
  /-- Each unit stands behind its header, and there is nothing else. -/
  data : out.data = nals.flatMap fun nal => framing.header nal ++ nal
  /-- There is a range for each unit. -/
  count : out.index.length = nals.length
  /-- It lies behind the units before it and its header, and is as long as the unit. -/
  place : ∀ (i : Nat) (nal : Bytes), nals[i]? = some nal →
    out.index[i]? =
      some ⟨(framing.encode (nals.take i)).length + (framing.header nal).length, nal.length⟩
  /-- It holds the unit. -/
  holds : out.index.Holds out.data nals
  /-- The ranges are in order and inside the payload. -/
  consistent : out.index.Consistent out.data.length
  /-- They cover just the bytes that lie in no header. -/
  covers : ∀ pos < out.data.length, (∃ f ∈ out.index, f.offset ≤ pos ∧ pos < f.stop) ↔
    ¬ ∃ (i : Nat) (nal : Bytes) (f : Fragment), nals[i]? = some nal ∧ out.index[i]? = some f ∧
      pos < f.offset ∧ f.offset ≤ pos + (framing.header nal).length

section Frame

variable (framing : Framing) (nals : List Bytes)

lemma Framing.getElem?_pieces {nal : Bytes} {i : Nat} (h : nals[i]? = some nal) :
    (framing.pieces nals)[i]? = some ⟨framing.header nal, nal⟩ := by
  rw [pieces, List.getElem?_map, h]
  rfl

/-- The place of a unit in a framed run. -/
lemma Framing.getElem?_index_frame {nal : Bytes} {i : Nat} (h : nals[i]? = some nal) :
    (framing.frame nals).index[i]? =
      some ⟨(framing.encode (nals.take i)).length + (framing.header nal).length, nal.length⟩ := by
  rw [frame, ← places_pieces, Piece.getElem?_places, framing.getElem?_pieces nals h, Nat.zero_add,
    ← joined_pieces, pieces, pieces, List.map_take]
  rfl

/-- The index of a framed run covers just the bytes that lie in no header. -/
lemma Framing.covered_frame_iff {pos : Nat} (hpos : pos < (framing.frame nals).data.length) :
    (∃ f ∈ (framing.frame nals).index, f.offset ≤ pos ∧ pos < f.stop) ↔
      ¬ ∃ (i : Nat) (nal : Bytes) (f : Fragment), nals[i]? = some nal ∧
        (framing.frame nals).index[i]? = some f ∧ pos < f.offset ∧
          f.offset ≤ pos + (framing.header nal).length := by
  rw [frame, ← joined_pieces] at hpos
  rw [frame, ← places_pieces, Piece.covered_iff hpos, not_iff_not]
  constructor
  · rintro ⟨i, p, f, hp, hf, hbefore, hbehind⟩
    rw [pieces, List.getElem?_map] at hp
    obtain ⟨nal, hnal, rfl⟩ := Option.map_eq_some_iff.1 hp
    exact ⟨i, nal, f, hnal, hf, hbefore, hbehind⟩
  · rintro ⟨i, nal, f, hnal, hf, hbefore, hbehind⟩
    exact ⟨i, _, f, framing.getElem?_pieces nals hnal, hf, hbefore, hbehind⟩

/-- **A framed run comes with an exact index.** -/
theorem exact_frame : Exact framing nals (framing.frame nals) where
  data := rfl
  count := framing.length_index_frame nals
  place := fun _ _ h => framing.getElem?_index_frame nals h
  holds := by
    have hholds := (framing.consistent_frame nals).holds_units
    rwa [framing.units_frame] at hholds
  consistent := framing.consistent_frame nals
  covers := fun _ hpos => framing.covered_frame_iff nals hpos

end Frame

/-! ## The conversions -/

variable {data nal : Bytes} {index : FragmentIndex} {target : Format} {out : IndexedPayload}

/-- The headers with which a unit is added: lengths for the format of lengths, else start codes, of
three bytes if the first unit lies at offset three. -/
def headersFor (index : FragmentIndex) (target : Format) : Framing :=
  if target = .h264Avcc then
    lengthFraming
  else if index.head?.map Fragment.offset = some 3 then
    .startCode .short
  else
    .startCode .long

lemma eq_headersFor {framing : Framing} (h : insertFraming index target = .ok framing) :
    framing = headersFor index target := by
  have hshort : index.head?.any (·.offset == StartCode.short.size) = true ↔
      index.head?.map Fragment.offset = some 3 := by
    cases index <;> simp [StartCode.size, StartCode.bytes]
  cases target <;> cases h <;> simp [headersFor, hshort, apply_ite Framing.startCode]

/-- What is written from an index holds the units in its ranges. -/
lemma exact_of_indexedUnits (framing : Framing) (f : List Bytes → List Bytes)
    (h : (indexedUnits data index).map (fun nals => framing.frame (f nals)) = .ok out) :
    ∃ nals, index.Holds data nals ∧ Exact framing (f nals) out := by
  obtain ⟨nals, hnals, rfl⟩ := map_eq_ok_iff.1 h
  obtain ⟨hconsistent, rfl⟩ := consistent_of_indexedUnits hnals
  exact ⟨_, hconsistent.holds_units, exact_frame framing _⟩

/-- A unit is added behind those in the ranges of the index. -/
lemma exact_of_insertNal (h : insertNal data index nal target = .ok out) :
    ∃ nals, index.Holds data nals ∧
      Exact (headersFor index target) (nals ++ [escape nal]) out := by
  cases hframing : insertFraming index target with
  | error e =>
    rw [insertNal, hframing] at h
    cases h
  | ok framing =>
    obtain rfl := eq_headersFor hframing
    rw [insertNal_eq_map hframing] at h
    exact exact_of_indexedUnits _ (· ++ [escape nal]) h

/-- An access unit is written with the parameter sets that are put in front of it. -/
lemma exact_of_ofLengthPrefixed {codec : Codec} {width : PrefixWidth} {sets : List Bytes}
    {u : AccessUnit} (h : AccessUnit.ofLengthPrefixed codec.kind width sets data = .ok u) :
    ∃ nals, Codec.Encodes width.bytes nals data ∧
      Exact (.startCode .long) (codec.injected sets nals ++ nals) ⟨u.payload, u.index⟩ := by
  obtain ⟨nals, hread, rfl⟩ := AccessUnit.ofLengthPrefixed_eq_ok_iff.1 h
  refine ⟨nals, readLengthPrefixed_eq_ok_iff_encodes.1 hread, ?_⟩
  rw [Codec.injectedSets_kind]
  exact exact_frame _ _

/-- **Every conversion returns an exact index of what it writes.** The units are those between the
start codes, without the empty ones; those behind the lengths; those at the places of the index;
these with one more in escaped form, which is got back from it; and those of an access unit, behind
the parameter sets of the configuration if it has a keyframe and no parameter set. They stand behind
start codes or behind their lengths in four bytes.

**Proof sketch.** Each function writes a framed run, and the index of a framed run is exact
(`exact_frame`): its units lie one behind the other, each behind its header, and a byte of the run
lies either in a header or in a unit (`Piece.covered_iff`). -/
theorem reframed_exact :
    (∀ data : Bytes,
      ∃ nals, (scan data).Holds data nals ∧
        Exact lengthFraming (nals.filter (!·.isEmpty)) (lengthPrefixedOfByteStream data)) ∧
    (∀ (data : Bytes) (out : IndexedPayload), byteStreamOfLengthPrefixed data = .ok out →
      ∃ nals, Codec.Encodes 4 nals data ∧ Exact (.startCode .long) nals out) ∧
    (∀ (data : Bytes) (index : FragmentIndex) (out : IndexedPayload),
      lengthPrefixedOfFragments data index = .ok out →
      ∃ nals, index.Holds data nals ∧ Exact lengthFraming nals out) ∧
    (∀ (data : Bytes) (index : FragmentIndex) (nal : Bytes) (target : Format)
      (out : IndexedPayload), insertNal data index nal target = .ok out →
      ∃ nals, index.Holds data nals ∧
        Exact (headersFor index target) (nals ++ [escape nal]) out ∧ unescape (escape nal) = nal) ∧
    (∀ (data : Bytes) (lengthSize : Nat) (config : Option Avc.DecoderConfig) (u : AccessUnit),
      Avc.toByteStream data lengthSize config = .ok u →
      ∃ nals, Codec.Encodes (min (max lengthSize 1) 4) nals data ∧
        Exact (.startCode .long)
          (Codec.avc.injected (config.elim [] fun c => c.sps ++ c.pps) nals ++ nals)
          ⟨u.payload, u.index⟩) ∧
    (∀ (data : Bytes) (lengthSize : Nat) (config : Option Hevc.DecoderConfig) (u : AccessUnit),
      Hevc.toByteStream data lengthSize config = .ok u →
      ∃ nals, Codec.Encodes (min (max lengthSize 1) 4) nals data ∧
        Exact (.startCode .long)
          (Codec.hevc.injected
            (config.elim [] fun c => c.units.filter Codec.hevc.isParameterSet) nals ++ nals)
          ⟨u.payload, u.index⟩) ∧
    ∀ nal : Bytes, (lengthFraming.header nal).length = 4 ∧
      (nal.length < 2 ^ 32 → Bytes.toNatBE (lengthFraming.header nal) = nal.length) := by
  refine ⟨fun data => ⟨(scan data).units data, ?_, exact_frame _ _⟩, ?_, ?_, ?_, ?_, ?_, ?_⟩
  · exact (consistent_scan data).holds_units
  · intro data out hout
    obtain ⟨nals, hread, rfl⟩ := byteStreamOfLengthPrefixed_eq_ok_iff.1 hout
    exact ⟨nals, readLengthPrefixed_eq_ok_iff_encodes.1 hread, exact_frame _ _⟩
  · intro data index out hout
    rw [lengthPrefixedOfFragments_eq_map] at hout
    exact exact_of_indexedUnits lengthFraming id hout
  · intro data index nal target out hout
    obtain ⟨nals, hholds, hexact⟩ := exact_of_insertNal hout
    exact ⟨nals, hholds, hexact, unescapeFrom_escapeFrom 0 nal⟩
  · intro data lengthSize config u hu
    have hunit : AccessUnit.ofLengthPrefixed Codec.avc.kind (.clamp lengthSize)
        (config.elim [] fun c => c.sps ++ c.pps) data = .ok u := hu
    exact exact_of_ofLengthPrefixed hunit
  · intro data lengthSize config u hu
    have hkind : Codec.hevc.isParameterSet = Hevc.NalType.kind.isParameterSet :=
      Codec.kind_isParameterSet.symm
    have hunit : AccessUnit.ofLengthPrefixed Codec.hevc.kind (.clamp lengthSize)
        (config.elim [] fun c => c.units.filter Codec.hevc.isParameterSet) data = .ok u := by
      rw [hkind]
      exact hu
    exact exact_of_ofLengthPrefixed hunit
  · intro nal
    refine ⟨Bytes.length_ofNatBE _ _, fun hshort => ?_⟩
    rw [lengthFraming, Framing.header]
    exact Bytes.toNatBE_ofNatBE_of_lt hshort

/-- Empty units have a place as well, and so have the units that are put in front. -/
theorem reframed_exact_empty_unit :
    let data : Bytes := [0x41, 0x42, 0x43]
    let index : FragmentIndex := [⟨1, 0⟩, ⟨1, 2⟩]
    let lp : IndexedPayload := ⟨[0, 0, 0, 0, 0, 0, 0, 2, 0x42, 0x43], [⟨4, 0⟩, ⟨8, 2⟩]⟩
    let ab : IndexedPayload := ⟨[0, 0, 0, 1, 0, 0, 0, 1, 0x42, 0x43], [⟨4, 0⟩, ⟨8, 2⟩]⟩
    let ins : IndexedPayload :=
      ⟨[0, 0, 0, 1, 0, 0, 0, 1, 0x42, 0x43, 0, 0, 0, 1, 0, 0, 3, 1], [⟨4, 0⟩, ⟨8, 2⟩, ⟨14, 4⟩]⟩
    let avc : Avc.DecoderConfig := ⟨66, 0, 30, 1, [[0x67]], [[0x68]], []⟩
    let hevc : Hevc.DecoderConfig := ⟨1, 90, 1, [[0x40, 1], [0x4E, 1]], []⟩
    let idr : AccessUnit := ⟨[0, 0, 0, 1, 0x67, 0, 0, 0, 1, 0x68, 0, 0, 0, 1, 0x65],
      [⟨4, 1⟩, ⟨9, 1⟩, ⟨14, 1⟩], true⟩
    let irap : AccessUnit := ⟨[0, 0, 0, 1, 0x40, 1, 0, 0, 0, 1, 0x26, 1], [⟨4, 2⟩, ⟨10, 2⟩], true⟩
    (lengthPrefixedOfFragments data index = .ok lp ∧ ∃ nals, Exact lengthFraming nals lp) ∧
    (byteStreamOfLengthPrefixed lp.data = .ok ab ∧ ∃ nals, Exact (.startCode .long) nals ab) ∧
    (insertNal data index [0, 0, 1] .h264AnnexB = .ok ins ∧
      ∃ nals, Exact (.startCode .long) (nals ++ [[0, 0, 3, 1]]) ins) ∧
    (Avc.toByteStream [1, 0x65] 1 (some avc) = .ok idr ∧
      ∃ nals, Codec.Encodes 1 nals [1, 0x65] ∧
        Exact (.startCode .long) (Codec.avc.injected [[0x67], [0x68]] nals ++ nals)
          ⟨idr.payload, idr.index⟩) ∧
    (Hevc.toByteStream [2, 0x26, 1] 1 (some hevc) = .ok irap ∧
      ∃ nals, Codec.Encodes 1 nals [2, 0x26, 1] ∧
        Exact (.startCode .long) (Codec.hevc.injected [[0x40, 1]] nals ++ nals)
          ⟨irap.payload, irap.index⟩) ∧
    ([0x42, 0x43] : Bytes).length < 2 ^ 32 ∧
      Bytes.toNatBE (lengthFraming.header [0x42, 0x43]) = 2 := by
  intro data index lp ab ins avc hevc idr irap
  have hlp : lengthPrefixedOfFragments data index = .ok lp := by decide
  have hab : byteStreamOfLengthPrefixed lp.data = .ok ab := by
    have hread : readLengthPrefixed .four lp.data = .ok [[], [0x42, 0x43]] :=
      readLengthPrefixed_eq_ok_iff.2 ⟨by decide, by decide⟩
    exact byteStreamOfLengthPrefixed_eq_ok_iff.2 ⟨_, hread, by decide⟩
  have hins : insertNal data index [0, 0, 1] .h264AnnexB = .ok ins := by decide
  have hidr : Avc.toByteStream [1, 0x65] 1 (some avc) = .ok idr := by
    have hread : readLengthPrefixed (.clamp 1) [1, 0x65] = .ok [[0x65]] :=
      readLengthPrefixed_eq_ok_iff.2 ⟨by decide, by decide⟩
    exact AccessUnit.ofLengthPrefixed_eq_ok_iff.2 ⟨_, hread, by decide⟩
  have hirap : Hevc.toByteStream [2, 0x26, 1] 1 (some hevc) = .ok irap := by
    have hread : readLengthPrefixed (.clamp 1) [2, 0x26, 1] = .ok [[0x26, 1]] :=
      readLengthPrefixed_eq_ok_iff.2 ⟨by decide, by decide⟩
    exact AccessUnit.ofLengthPrefixed_eq_ok_iff.2 ⟨_, hread, by decide⟩
  obtain ⟨-, htwo, hthree, hfour, hfive, hsix, hlength⟩ := reframed_exact
  obtain ⟨nals, -, hexact⟩ := hthree data index lp hlp
  obtain ⟨nals', -, hexact'⟩ := htwo lp.data ab hab
  obtain ⟨nals'', -, hexact'', -⟩ := hfour data index [0, 0, 1] .h264AnnexB ins hins
  have hshort : ([0x42, 0x43] : Bytes).length < 2 ^ 32 := by decide
  exact ⟨⟨hlp, nals, hexact⟩, ⟨hab, nals', hexact'⟩, ⟨hins, nals'', hexact''⟩,
    ⟨hidr, hfive _ 1 (some avc) idr hidr⟩, ⟨hirap, hsix _ 1 (some hevc) irap hirap⟩, hshort,
    (hlength _).2 hshort⟩

/-! ## Known and new indexes -/

/-- From the index of a scan all its units are written. -/
lemma lengthPrefixedOfFragments_scan_eq (hdata : data.length < addressSpace) :
    lengthPrefixedOfFragments data (scan data) =
      .ok (lengthFraming.frame ((scan data).units data)) := by
  rw [lengthPrefixedOfFragments_eq_map, indexedUnits_of_consistent hdata (consistent_scan data)]
  rfl

/-- No unit is left out just if none of the ranges is empty. -/
lemma filledUnits_eq_units_iff :
    filledUnits data = (scan data).units data ↔ ∀ f ∈ scan data, f.length ≠ 0 := by
  have hlengths := (consistent_scan data).holds_units.map_length
  calc filledUnits data = (scan data).units data
      ↔ ∀ nal ∈ (scan data).units data, nal.length ≠ 0 := by
        rw [filledUnits, List.filter_eq_self]
        exact forall₂_congr fun nal _ => by simp
    _ ↔ ∀ n ∈ ((scan data).units data).map List.length, n ≠ 0 := by simp
    _ ↔ ∀ f ∈ scan data, f.length ≠ 0 := by simp [hlengths]

/-- The units of a short buffer are short. -/
lemma length_lt_of_length_lt {bound : Nat} (hdata : data.length < bound) :
    (∀ nal ∈ (scan data).units data, nal.length < bound) ∧
      ∀ nal ∈ filledUnits data, nal.length < bound :=
  ⟨fun _ hnal => (of_mem_units_scan hnal).2.trans_lt hdata,
    fun _ hnal => (of_mem_filledUnits hnal).2.2.trans_lt hdata⟩

/-- All units and the filled ones give the same bytes just if they are the same. -/
lemma encode_units_eq_iff (hdata : data.length < 2 ^ 32) :
    lengthFraming.encode ((scan data).units data) = lengthFraming.encode (filledUnits data) ↔
      ∀ f ∈ scan data, f.length ≠ 0 := by
  obtain ⟨hshort, hfilled⟩ := length_lt_of_length_lt hdata
  rw [lengthFraming_encode_inj hshort hfilled, eq_comm, filledUnits_eq_units_iff]

/-- They give the same index just if there are as many of them. -/
lemma index_units_eq_iff (framing : Framing) :
    (framing.frame ((scan data).units data)).index = (framing.frame (filledUnits data)).index ↔
      ∀ f ∈ scan data, f.length ≠ 0 := by
  rw [← filledUnits_eq_units_iff]
  constructor
  · intro h
    have hcount := congrArg List.length h
    rw [Framing.length_index_frame, Framing.length_index_frame] at hcount
    exact List.filter_sublist.eq_of_length hcount.symm
  · intro h
    rw [h]

/-- **The way by a known index ends where the way by a scan does, but for the empty units.** The
index of a scan is accepted with every buffer of less than `2 ^ 32` bytes. What is written then is
read as just the units of the scan, and what is written from the bytes as those of them that are not
empty. Bytes, index or both agree just if no range is empty.

**Proof sketch.** The index of a scan is consistent, so both write a framed run. Short units are
known from the run of their lengths (`lengthFraming_encode_inj`), and their number from the index.
-/
theorem lengthPrefixedOfFragments_scan (hdata : data.length < 2 ^ 32) :
    ∃ out nals, lengthPrefixedOfFragments data (scan data) = .ok out ∧
      (scan data).Holds data nals ∧
      readLengthPrefixed .four out.data = .ok nals ∧
      readLengthPrefixed .four (lengthPrefixedOfByteStream data).data =
        .ok (nals.filter (!·.isEmpty)) ∧
      (out.data = (lengthPrefixedOfByteStream data).data ↔ ∀ f ∈ scan data, f.length ≠ 0) ∧
      (out.index = (lengthPrefixedOfByteStream data).index ↔ ∀ f ∈ scan data, f.length ≠ 0) ∧
      (out = lengthPrefixedOfByteStream data ↔ ∀ f ∈ scan data, f.length ≠ 0) := by
  have hsize : data.length < addressSpace := hdata.trans (by decide)
  obtain ⟨hshort, hfilled⟩ := length_lt_of_length_lt hdata
  refine ⟨_, _, lengthPrefixedOfFragments_scan_eq hsize, (consistent_scan data).holds_units,
    readLengthPrefixed_encode hshort, readLengthPrefixed_encode hfilled,
    encode_units_eq_iff hdata, index_units_eq_iff lengthFraming, ?_⟩
  rw [lengthPrefixedOfByteStream_eq]
  constructor
  · intro h
    exact (index_units_eq_iff lengthFraming).1 (congrArg IndexedPayload.index h)
  · intro h
    rw [filledUnits_eq_units_iff.2 h]

/-- Between two codes side by side and behind the last one there are units without a byte, which
only the way by the index keeps. -/
theorem lengthPrefixedOfFragments_scan_empty_units :
    let data : Bytes := [0x41, 0, 0, 1, 0, 0, 0, 1, 0x42, 0, 0, 1]
    data.length < 2 ^ 32 ∧
    ∃ out, lengthPrefixedOfFragments data (scan data) = .ok out ∧
      readLengthPrefixed .four out.data = .ok [[0x41], [], [0x42], []] ∧
      readLengthPrefixed .four (lengthPrefixedOfByteStream data).data = .ok [[0x41], [0x42]] ∧
      out ≠ lengthPrefixedOfByteStream data := by
  intro data
  have hdata : data.length < 2 ^ 32 := by decide
  obtain ⟨out, nals, hout, hholds, hread, hread', -, -, hagree⟩ :=
    lengthPrefixedOfFragments_scan hdata
  have hunits : (scan data).Holds data [[0x41], [], [0x42], []] := by
    unfold FragmentIndex.Holds
    decide
  obtain rfl := hholds.unique hunits
  refine ⟨hdata, out, hout, hread, hread', fun h => ?_⟩
  exact absurd (hagree.1 h) (by decide)

end LiveMedia.Nal
