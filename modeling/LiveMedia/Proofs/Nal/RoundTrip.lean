import LiveMedia.Nal.Reframe
import LiveMedia.Proofs.Nal.LengthPrefix
import LiveMedia.Proofs.Nal.Scan

set_option autoImplicit false

/-!
# From start codes to lengths and back

Lengths keep every unit but the empty ones. Start codes keep the units that hold no start code
themselves: at a start code inside a unit the unit falls apart, while the codes between the units
are always found. So a buffer with start codes is lost only as far as its empty units and the
widths of its codes go, and a buffer with lengths comes back just if its units are not empty and
hold no start code.

## Main definitions

* `LiveMedia.Nal.filledUnits` — the units of a buffer that are not empty.

## Main results

* `LiveMedia.Nal.filledUnits_encode` — units behind four-byte codes fall apart one by one.
* `LiveMedia.Nal.lengthPrefixed_round_trip` — the way there and back, from either side.
-/

namespace LiveMedia.Nal

variable {data nal : Bytes} {nals : List Bytes}

/-! ## The units that lengths keep -/

/-- The units of a buffer that are not empty. -/
def filledUnits (data : Bytes) : List Bytes :=
  ((scan data).units data).filter (!·.isEmpty)

lemma lengthPrefixedOfByteStream_eq (data : Bytes) :
    lengthPrefixedOfByteStream data = lengthFraming.frame (filledUnits data) := rfl

lemma filledUnits_eq (data : Bytes) :
    filledUnits data = (ByteStream.parse data).nals.filter (!·.isEmpty) := by
  rw [filledUnits, units_scan]

/-- What a scan finds holds no start code, and is no longer than the buffer. -/
lemma of_mem_units_scan (h : nal ∈ (scan data).units data) :
    CodeFree nal ∧ nal.length ≤ data.length := by
  rw [units_scan] at h
  have hlen := ByteStream.length_le_of_mem_nals h
  rw [ByteStream.bytes_parse] at hlen
  exact ⟨(ByteStream.tidy_parse data).codeFree_of_mem_nals h, hlen⟩

/-- A filled unit is not empty, and holds no start code. -/
lemma of_mem_filledUnits (h : nal ∈ filledUnits data) :
    nal ≠ [] ∧ CodeFree nal ∧ nal.length ≤ data.length := by
  obtain ⟨hnal, hne⟩ := List.mem_filter.1 h
  exact ⟨by simpa using hne, of_mem_units_scan hnal⟩

lemma filledUnits_of_codeFree (hne : nal ≠ []) (hfree : CodeFree nal) :
    filledUnits nal = [nal] := by
  rw [filledUnits_eq, ByteStream.parse_of_codeFree hfree, ByteStream.nals]
  simp [hne]

/-! ## Units behind four-byte start codes -/

/-- A unit behind a four-byte code, taken apart at the start codes inside it. -/
def unitsBehindLong (nal : Bytes) : List (StartCode × Bytes) :=
  (.long, (ByteStream.parse nal).lead) :: (ByteStream.parse nal).units

lemma framed_flatMap_unitsBehindLong (nals : List Bytes) :
    framed (nals.flatMap unitsBehindLong) = (Framing.startCode .long).encode nals := by
  induction nals with
  | nil => rfl
  | cons nal nals ih =>
    have hnal := ByteStream.bytes_parse nal
    rw [ByteStream.bytes_eq] at hnal
    rw [List.flatMap_cons, framed_append, ih, unitsBehindLong, framed_cons, hnal,
      Framing.encode_cons, List.append_assoc]
    rfl

/-- **The four-byte codes between units are always found**, and within a unit those that it holds
itself.

**Proof sketch.** The units taken apart one by one make up a tidy stream: each is tidy, and any
unit may stand in front of a four-byte code. -/
lemma parse_encode (nals : List Bytes) :
    ByteStream.parse ((Framing.startCode .long).encode nals) =
      ⟨[], nals.flatMap unitsBehindLong⟩ := by
  have htidy : ByteStream.TidyFrom [] (nals.flatMap unitsBehindLong) := by
    induction nals using List.reverseRecOn with
    | nil => exact codeFree_nil
    | append_singleton nals nal ih =>
      rw [List.flatMap_append, List.flatMap_singleton]
      exact ih.append (ByteStream.tidy_parse nal)
  rw [← framed_flatMap_unitsBehindLong, htidy.parse_framed]

/-- The filled units of a run are those of its units, one unit after the other. -/
lemma filledUnits_encode (nals : List Bytes) :
    filledUnits ((Framing.startCode .long).encode nals) = nals.flatMap filledUnits := by
  have hunit (nal : Bytes) :
      ((unitsBehindLong nal).map Prod.snd).filter (!·.isEmpty) = filledUnits nal := by
    rw [filledUnits_eq, ByteStream.nals, unitsBehindLong, List.map_cons]
    cases (ByteStream.parse nal).lead <;> rfl
  rw [filledUnits_eq, parse_encode, ByteStream.nals]
  show ((nals.flatMap unitsBehindLong).map Prod.snd).filter (!·.isEmpty) = _
  rw [List.map_flatMap, List.filter_flatMap]
  exact List.flatMap_congr fun nal _ => hunit nal

/-- Units without a start code inside are found as they were put, and where they were put. -/
lemma scan_frame (h : ∀ nal ∈ nals, CodeFree nal) :
    scan ((Framing.startCode .long).frame nals).data =
      ((Framing.startCode .long).frame nals).index := by
  have hunits : nals.flatMap unitsBehindLong = nals.map fun nal => (.long, nal) := by
    rw [List.map_eq_flatMap]
    refine List.flatMap_congr fun nal hnal => ?_
    rw [unitsBehindLong, ByteStream.parse_of_codeFree (h nal hnal)]
  rw [Framing.frame, scan, parse_encode, hunits, ← ByteStream.places_pieces,
    ← Framing.places_pieces, ByteStream.pieces, List.map_map]
  rfl

/-- Units come back from between start codes just if each of them is filled and holds no start
code. -/
lemma flatMap_filledUnits_eq_self_iff :
    nals.flatMap filledUnits = nals ↔ ∀ nal ∈ nals, nal ≠ [] ∧ CodeFree nal := by
  constructor
  · intro h nal hnal
    rw [← h] at hnal
    obtain ⟨_, -, hfilled⟩ := List.mem_flatMap.1 hnal
    obtain ⟨hne, hfree, -⟩ := of_mem_filledUnits hfilled
    exact ⟨hne, hfree⟩
  · intro h
    conv_rhs => rw [← List.flatMap_singleton' nals]
    exact List.flatMap_congr fun nal hnal => filledUnits_of_codeFree (h nal hnal).1 (h nal hnal).2

/-! ## There and back -/

/-- Lengths for the start codes of a run. -/
lemma lengthPrefixedOfByteStream_frame (nals : List Bytes) :
    lengthPrefixedOfByteStream ((Framing.startCode .long).frame nals).data =
      lengthFraming.frame (nals.flatMap filledUnits) :=
  congrArg lengthFraming.frame (filledUnits_encode nals)

lemma byteStreamOfLengthPrefixed_eq_ok_iff {ab : IndexedPayload} :
    byteStreamOfLengthPrefixed data = .ok ab ↔
      ∃ nals, readLengthPrefixed .four data = .ok nals ∧
        (Framing.startCode .long).frame nals = ab := by
  rw [byteStreamOfLengthPrefixed]
  cases readLengthPrefixed .four data with
  | error e => simp [bind, Except.bind]
  | ok nals => simp [bind, Except.bind, pure, Except.pure]

/-- Short units are read back from behind their lengths. -/
lemma readLengthPrefixed_encode (h : ∀ nal ∈ nals, nal.length < 2 ^ 32) :
    readLengthPrefixed .four (lengthFraming.encode nals) = .ok nals :=
  readLengthPrefixed_eq_ok_iff.2 ⟨rfl, h⟩

/-- Short units are determined by the buffer that holds them behind their lengths. -/
lemma lengthFraming_encode_inj {nals' : List Bytes} (h : ∀ nal ∈ nals, nal.length < 2 ^ 32)
    (h' : ∀ nal ∈ nals', nal.length < 2 ^ 32) :
    lengthFraming.encode nals = lengthFraming.encode nals' ↔ nals = nals' := by
  refine ⟨fun heq => ?_, congrArg _⟩
  have hread := readLengthPrefixed_encode h
  rw [heq, readLengthPrefixed_encode h', Except.ok.injEq] at hread
  exact hread.symm

/-- **From start codes to lengths and back, from either side.**

* A buffer of less than `2 ^ 32` bytes with start codes gets lengths, and from these start codes
  again. The result has an index of just the units of the buffer that are not empty, a scan of it
  gives the same index, and lengths for its start codes are the lengths of the way there.
* A buffer with lengths that gets start codes comes back from them just if none of its units is
  empty or holds a start code.

**Proof sketch.** Lengths keep the filled units of a buffer (`lengthPrefixedOfByteStream_eq`), and
units of less than `2 ^ 32` bytes are read back from behind them. The filled units of a run behind
four-byte codes are those of its units (`filledUnits_encode`), which are the units themselves just
if these are filled and code-free (`flatMap_filledUnits_eq_self_iff`). -/
theorem lengthPrefixed_round_trip :
    (∀ data : Bytes, data.length < 2 ^ 32 → ∃ ab,
      byteStreamOfLengthPrefixed (lengthPrefixedOfByteStream data).data = .ok ab ∧
      ab.index.units ab.data = ((scan data).units data).filter (!·.isEmpty) ∧
      scan ab.data = ab.index ∧
      lengthPrefixedOfByteStream ab.data = lengthPrefixedOfByteStream data) ∧
    ∀ (lp : Bytes) (ab : IndexedPayload), byteStreamOfLengthPrefixed lp = .ok ab →
      ∃ nals, lengthFraming.encode nals = lp ∧ readLengthPrefixed .four lp = .ok nals ∧
        ((lengthPrefixedOfByteStream ab.data).data = lp ↔
          ∀ nal ∈ nals, nal ≠ [] ∧ CodeFree nal) := by
  constructor
  · intro data hdata
    have hfilled : ∀ nal ∈ filledUnits data, nal ≠ [] ∧ CodeFree nal := by
      intro nal hnal
      obtain ⟨hne, hfree, -⟩ := of_mem_filledUnits hnal
      exact ⟨hne, hfree⟩
    have hread : readLengthPrefixed .four (lengthPrefixedOfByteStream data).data =
        .ok (filledUnits data) :=
      readLengthPrefixed_encode fun nal hnal => (of_mem_filledUnits hnal).2.2.trans_lt hdata
    refine ⟨_, byteStreamOfLengthPrefixed_eq_ok_iff.2 ⟨_, hread, rfl⟩, ?_, ?_, ?_⟩
    · exact Framing.units_frame _ _
    · exact scan_frame fun nal hnal => (hfilled nal hnal).2
    · rw [lengthPrefixedOfByteStream_frame, flatMap_filledUnits_eq_self_iff.2 hfilled,
        lengthPrefixedOfByteStream_eq]
  · intro lp ab hab
    obtain ⟨nals, hread, rfl⟩ := byteStreamOfLengthPrefixed_eq_ok_iff.1 hab
    obtain ⟨hlp, hfits⟩ := readLengthPrefixed_eq_ok_iff.1 hread
    have hfits' : ∀ part ∈ nals.flatMap filledUnits, part.length < 2 ^ 32 := by
      intro part hpart
      obtain ⟨nal, hnal, hpart⟩ := List.mem_flatMap.1 hpart
      exact (of_mem_filledUnits hpart).2.2.trans_lt (hfits nal hnal)
    refine ⟨nals, hlp, hread, ?_⟩
    calc (lengthPrefixedOfByteStream ((Framing.startCode .long).frame nals).data).data = lp
        ↔ lengthFraming.encode (nals.flatMap filledUnits) = lengthFraming.encode nals := by
          rw [lengthPrefixedOfByteStream_frame, ← hlp]
          rfl
      _ ↔ nals.flatMap filledUnits = nals := lengthFraming_encode_inj hfits' hfits
      _ ↔ ∀ nal ∈ nals, nal ≠ [] ∧ CodeFree nal := flatMap_filledUnits_eq_self_iff

/-- A buffer with bytes before the first code, an empty unit and zeros at the ends of units; and a
buffer with lengths whose unit holds a start code, which does not come back. -/
theorem lengthPrefixed_round_trip_mixed :
    let data : Bytes := [0x65, 0, 0, 1, 0x67, 0, 0, 0, 0, 0, 1, 0, 0, 1, 0x41, 0]
    let lp : Bytes := [0, 0, 0, 4, 0x65, 0, 0, 1]
    let ab : IndexedPayload := ⟨[0, 0, 0, 1, 0x65, 0, 0, 1], [⟨4, 4⟩]⟩
    data.length < 2 ^ 32 ∧ byteStreamOfLengthPrefixed lp = .ok ab ∧
    (∃ ab, byteStreamOfLengthPrefixed (lengthPrefixedOfByteStream data).data = .ok ab ∧
      scan ab.data = ab.index) ∧
    ∃ nals, readLengthPrefixed .four lp = .ok nals ∧
      ((lengthPrefixedOfByteStream ab.data).data = lp ↔ ∀ nal ∈ nals, nal ≠ [] ∧ CodeFree nal) := by
  intro data lp ab
  have hdata : data.length < 2 ^ 32 := by decide
  have hab : byteStreamOfLengthPrefixed lp = .ok ab := by
    have hread : readLengthPrefixed .four lp = .ok [[0x65, 0, 0, 1]] :=
      readLengthPrefixed_eq_ok_iff.2 ⟨by decide, by decide⟩
    exact byteStreamOfLengthPrefixed_eq_ok_iff.2 ⟨_, hread, by decide⟩
  obtain ⟨ab', hthere, -, hscan, -⟩ := lengthPrefixed_round_trip.1 data hdata
  obtain ⟨nals, -, hread, hback⟩ := lengthPrefixed_round_trip.2 lp ab hab
  exact ⟨hdata, hab, ⟨ab', hthere, hscan⟩, nals, hread, hback⟩

end LiveMedia.Nal
