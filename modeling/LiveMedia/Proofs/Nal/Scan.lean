import LiveMedia.Proofs.Nal.Layout

set_option autoImplicit false

/-!
# Taking a byte stream apart

Where a buffer falls apart is settled by two rules on the units. No unit holds the bytes
`00 00 01`, and a unit in front of a three-byte start code does not end in a zero byte, for that
zero would make the code a four-byte one. A byte stream that keeps the rules is tidy; a buffer is
taken apart into the only tidy stream that it stands for.

## Main definitions

* `LiveMedia.Nal.CodeFree` — a unit that holds no start code.
* `LiveMedia.Nal.ByteStream.Tidy` — the stream keeps the two rules.
* `LiveMedia.Nal.Decomposes` — an index takes a buffer apart at its start codes.

## Main results

* `LiveMedia.Nal.ByteStream.parse_eq_iff` — a buffer is taken apart into its only tidy stream.
* `LiveMedia.Nal.scan_framed` — units that were put behind start codes are found again.
* `LiveMedia.Nal.scan_decomposes` — every buffer is taken apart without loss.
-/

namespace LiveMedia.Nal

/-! ## Units without a start code -/

/-- The unit holds no start code. The three-byte code is part of the four-byte one, so it is
enough that it does not hold the former. -/
def CodeFree (nal : Bytes) : Prop :=
  ¬ StartCode.short.bytes <:+: nal

instance : DecidablePred CodeFree := fun nal =>
  inferInstanceAs (Decidable (¬ StartCode.short.bytes <:+: nal))

lemma codeFree_nil : CodeFree [] := by decide

lemma codeFree_cons_iff {b : UInt8} {nal : Bytes} :
    CodeFree (b :: nal) ↔ ¬ StartCode.short.bytes <+: b :: nal ∧ CodeFree nal := by
  rw [CodeFree, List.infix_cons_iff, not_or, CodeFree]

lemma StartCode.short_infix (code : StartCode) : StartCode.short.bytes <:+: code.bytes := by
  cases code <;> decide

/-- Neither start code stands in a code-free unit. -/
lemma CodeFree.not_infix {nal : Bytes} (h : CodeFree nal) (code : StartCode) :
    ¬ code.bytes <:+: nal :=
  fun hc => h (code.short_infix.trans hc)

/-- The unit may stand in front of the start code. With a zero byte at its end, a three-byte code
behind it would be taken for a four-byte one. -/
def Precedes (nal : Bytes) (code : StartCode) : Prop :=
  code = .short → nal.getLast? ≠ some 0

lemma precedes_nil (code : StartCode) : Precedes [] code :=
  fun _ => nofun

lemma precedes_long (nal : Bytes) : Precedes nal .long :=
  nofun

/-- Whether a unit may stand in front of a start code is seen from its last byte. -/
lemma precedes_cons_iff {b : UInt8} {nal : Bytes} {code : StartCode} (hne : nal ≠ []) :
    Precedes (b :: nal) code ↔ Precedes nal code := by
  obtain ⟨c, rest, rfl⟩ := List.exists_cons_of_ne_nil hne
  rw [Precedes, List.getLast?_cons_cons, Precedes]

lemma Precedes.tail {b : UInt8} {nal : Bytes} {code : StartCode} (h : Precedes (b :: nal) code) :
    Precedes nal code := by
  rcases eq_or_ne nal [] with rfl | hne
  · exact precedes_nil code
  · exact (precedes_cons_iff hne).1 h

/-- No start code begins in a unit that is followed by one.

**Proof sketch.** A code that begins in the unit ends there, which the unit excludes, or reaches
into the code behind it. Both have their only nonzero byte at the end, so the latter can be only if
a zero byte at the end of the unit stands in front of a three-byte code. -/
lemma not_prefix_of_precedes {b : UInt8} {nal : Bytes} {code : StartCode}
    (hfree : CodeFree (b :: nal)) (hcut : Precedes (b :: nal) code) (rest : Bytes)
    (code' : StartCode) : ¬ code'.bytes <+: b :: (nal ++ (code.bytes ++ rest)) := by
  rw [← List.cons_append]
  intro hstart
  rcases Nat.lt_or_ge (b :: nal).length code'.size with hlt | hge
  · -- the code reaches behind the unit, which has at most three bytes
    have hsize : code'.size ≤ 4 := by cases code' <;> decide
    rcases nal with _ | ⟨x, _ | ⟨y, _ | ⟨z, nal⟩⟩⟩
    · cases code <;> cases code' <;> simp_all [StartCode.bytes, Precedes]
    · cases code <;> cases code' <;> simp_all [StartCode.bytes]
    · cases code <;> cases code' <;> simp_all [StartCode.bytes, StartCode.size]
    · simp only [List.length_cons] at hlt
      omega
  · refine hfree.not_infix code' (List.IsPrefix.isInfix ?_)
    exact List.prefix_of_prefix_length_le hstart (List.prefix_append _ _) hge

/-- The bytes of a run of units, each behind its start code. -/
def framed (units : List (StartCode × Bytes)) : Bytes :=
  units.flatMap fun u => u.1.bytes ++ u.2

lemma framed_cons (u : StartCode × Bytes) (us : List (StartCode × Bytes)) :
    framed (u :: us) = u.1.bytes ++ (u.2 ++ framed us) :=
  List.append_assoc _ _ _

lemma framed_append (us vs : List (StartCode × Bytes)) :
    framed (us ++ vs) = framed us ++ framed vs :=
  List.flatMap_append

/-! ## Taking a buffer apart, step by step -/

namespace ByteStream

lemma bytes_eq (s : ByteStream) : s.bytes = s.lead ++ framed s.units := rfl

/-- A start code opens a unit. -/
lemma parse_code (code : StartCode) (rest : Bytes) :
    parse (code.bytes ++ rest) = (parse rest).underCode code := by
  cases code <;> simp [StartCode.bytes, parse]

/-- A byte at which no start code begins belongs to the unit. -/
lemma parse_cons {b : UInt8} {rest : Bytes} (h : ∀ code : StartCode, ¬ code.bytes <+: b :: rest) :
    parse (b :: rest) = (parse rest).underByte b := by
  refine parse.eq_3 b rest ?_ ?_
  · rintro r rfl rfl
    exact h .long ⟨r, rfl⟩
  · rintro r rfl rfl
    exact h .short ⟨r, rfl⟩

/-- A unit reaches up to the start code behind it. -/
lemma parse_append_code {nal : Bytes} {code : StartCode} (hfree : CodeFree nal)
    (hcut : Precedes nal code) (rest : Bytes) :
    parse (nal ++ (code.bytes ++ rest)) =
      ⟨nal, (code, (parse rest).lead) :: (parse rest).units⟩ := by
  induction nal with
  | nil => exact parse_code code rest
  | cons b nal ih =>
    rw [List.cons_append, parse_cons (not_prefix_of_precedes hfree hcut rest),
      ih (codeFree_cons_iff.1 hfree).2 hcut.tail]
    rfl

/-- A unit with no start code behind it reaches up to the end. -/
lemma parse_of_codeFree {nal : Bytes} (hfree : CodeFree nal) : parse nal = ⟨nal, []⟩ := by
  induction nal with
  | nil => simp [parse]
  | cons b nal ih =>
    rw [parse_cons fun code hc => hfree.not_infix code hc.isInfix,
      ih (codeFree_cons_iff.1 hfree).2]
    rfl

/-! ## Tidy streams -/

/-- The unit `nal` and those behind it hold no start code, and each may stand in front of the
start code behind it. -/
def TidyFrom : (nal : Bytes) → List (StartCode × Bytes) → Prop
  | nal, [] => CodeFree nal
  | nal, u :: us => CodeFree nal ∧ Precedes nal u.1 ∧ TidyFrom u.2 us

/-- The units of the stream hold no start code, and none in front of a three-byte code ends in a
zero byte. -/
def Tidy (s : ByteStream) : Prop :=
  TidyFrom s.lead s.units

section Tidy

variable {nal nal' data : Bytes} {us vs : List (StartCode × Bytes)} {s : ByteStream}

lemma TidyFrom.codeFree (h : TidyFrom nal us) : CodeFree nal := by
  cases us with
  | nil => exact h
  | cons u us => exact h.1

/-- Of a tidy stream all units are code-free. -/
lemma TidyFrom.codeFree_of_mem (h : TidyFrom nal us) : ∀ u ∈ us, CodeFree u.2 := by
  induction us generalizing nal with
  | nil => simp
  | cons u us ih =>
    intro v hv
    rcases List.mem_cons.1 hv with rfl | hv
    · exact h.2.2.codeFree
    · exact ih h.2.2 v hv

/-- A stream is tidy if its units are code-free and neighbours fit. -/
lemma tidyFrom_of_isChain (hnal : CodeFree nal) (hfree : ∀ u ∈ us, CodeFree u.2)
    (hcut : ((StartCode.long, nal) :: us).IsChain fun u v => Precedes u.2 v.1) :
    TidyFrom nal us := by
  induction us generalizing nal with
  | nil => exact hnal
  | cons u us ih =>
    obtain ⟨hu, hus⟩ := List.forall_mem_cons.1 hfree
    rw [List.isChain_cons_cons] at hcut
    refine ⟨hnal, hcut.1, ih hu hus ?_⟩
    -- the relation does not read the code of the first unit
    cases us with
    | nil => exact .singleton _
    | cons v us => exact List.isChain_cons_cons.2 (List.isChain_cons_cons.1 hcut.2)

/-- Tidy streams may be joined by a four-byte start code. -/
lemma TidyFrom.append (h : TidyFrom nal us) (h' : TidyFrom nal' vs) :
    TidyFrom nal (us ++ (.long, nal') :: vs) := by
  induction us generalizing nal with
  | nil => exact ⟨h, precedes_long nal, h'⟩
  | cons u us ih => exact ⟨h.1, h.2.1, ih h.2.2⟩

/-- A buffer is taken apart into the tidy stream that it stands for. -/
lemma parse_bytes (h : s.Tidy) : parse s.bytes = s := by
  obtain ⟨nal, us⟩ := s
  show parse (nal ++ framed us) = _
  change TidyFrom nal us at h
  induction us generalizing nal with
  | nil => rw [framed, List.flatMap_nil, List.append_nil, parse_of_codeFree h]
  | cons u us ih =>
    obtain ⟨hfree, hcut, hrest⟩ := h
    rw [framed_cons, parse_append_code hfree hcut, ih u.2 hrest]

/-- The same for units behind start codes with nothing before them. -/
lemma TidyFrom.parse_framed (h : TidyFrom [] us) : parse (framed us) = ⟨[], us⟩ :=
  parse_bytes (s := ⟨[], us⟩) h

/-- A start code may be put in front of a tidy stream. -/
lemma Tidy.underCode (h : s.Tidy) (code : StartCode) : (s.underCode code).Tidy :=
  ⟨codeFree_nil, precedes_nil code, h⟩

/-- A byte may be put in front of a tidy stream if no start code begins with it.

**Proof sketch.** If the byte made the unit behind it hold a start code, the code would begin with
this byte. If the byte were the whole unit, and a zero in front of a three-byte code, it would
begin a four-byte one. -/
lemma Tidy.underByte {b : UInt8} (h : s.Tidy)
    (hstart : ∀ code : StartCode, ¬ code.bytes <+: b :: s.bytes) : (s.underByte b).Tidy := by
  obtain ⟨nal, us⟩ := s
  change TidyFrom nal us at h
  have hbytes : b :: (⟨nal, us⟩ : ByteStream).bytes = b :: nal ++ framed us := rfl
  rw [hbytes] at hstart
  have hfree : CodeFree (b :: nal) :=
    codeFree_cons_iff.2 ⟨fun hc => hstart .short (hc.trans (List.prefix_append _ _)), h.codeFree⟩
  show TidyFrom (b :: nal) us
  cases us with
  | nil => exact hfree
  | cons u us =>
    refine ⟨hfree, ?_, h.2.2⟩
    rcases eq_or_ne nal [] with rfl | hne
    · rintro hu hlast
      rw [List.getLast?_singleton, Option.some.injEq] at hlast
      refine absurd ?_ (hstart .long)
      rw [hlast, framed_cons, hu]
      exact ⟨u.2 ++ framed us, rfl⟩
    · exact (precedes_cons_iff hne).2 h.2.1

/-- Every buffer is taken apart into a tidy stream. -/
lemma tidy_parse (data : Bytes) : (parse data).Tidy := by
  fun_induction parse data with
  | case1 rest ih => exact ih.underCode .long
  | case2 rest ih => exact ih.underCode .short
  | case3 b rest hlong hshort ih =>
    refine ih.underByte ?_
    rw [bytes_parse]
    rintro (_ | _) ⟨r, hr⟩
    · obtain ⟨hb, hrest⟩ := List.cons.inj hr
      exact hshort r hb.symm hrest.symm
    · obtain ⟨hb, hrest⟩ := List.cons.inj hr
      exact hlong r hb.symm hrest.symm
  | case4 => exact codeFree_nil

/-- **A buffer is taken apart into its only tidy stream.** -/
theorem parse_eq_iff : parse data = s ↔ s.bytes = data ∧ s.Tidy := by
  constructor
  · rintro rfl
    exact ⟨bytes_parse data, tidy_parse data⟩
  · rintro ⟨rfl, h⟩
    exact parse_bytes h

end Tidy

/-! ## The pieces of a tidy stream -/

section Pieces

variable {s : ByteStream} {p q : Piece} {nal : Bytes} {us : List (StartCode × Bytes)} {i : Nat}

/-- In front of every piece but the first stands a start code that the unit before it may stand
in front of. -/
lemma TidyFrom.isChain (h : TidyFrom nal us) (header : Bytes) :
    ((⟨header, nal⟩ : Piece) :: us.map piece).IsChain fun p q =>
      ∃ code : StartCode, q.header = code.bytes ∧ Precedes p.unit code := by
  induction us generalizing nal header with
  | nil => exact .singleton _
  | cons u us ih => exact List.isChain_cons_cons.2 ⟨⟨u.1, rfl, h.2.1⟩, ih h.2.2 u.1.bytes⟩

lemma Tidy.header_succ (h : s.Tidy) (hp : s.pieces[i]? = some p)
    (hq : s.pieces[i + 1]? = some q) :
    ∃ code : StartCode, q.header = code.bytes ∧ Precedes p.unit code := by
  have hchain : s.pieces.IsChain fun p q =>
      ∃ code : StartCode, q.header = code.bytes ∧ Precedes p.unit code := by
    have hall := TidyFrom.isChain h []
    unfold pieces
    split
    · exact hall.tail
    · exact hall
  obtain ⟨hi, rfl⟩ := List.getElem?_eq_some_iff.1 hp
  obtain ⟨hi', rfl⟩ := List.getElem?_eq_some_iff.1 hq
  exact List.isChain_iff_getElem.1 hchain i hi'

/-- In front of the first piece stands a start code or nothing. -/
lemma header_zero (hp : s.pieces[0]? = some p) :
    p.header = [] ∨ ∃ code : StartCode, p.header = code.bytes := by
  unfold pieces at hp
  split at hp
  · rw [List.nil_append, List.getElem?_map] at hp
    obtain ⟨u, -, rfl⟩ := Option.map_eq_some_iff.1 hp
    exact Or.inr ⟨u.1, rfl⟩
  · cases hp
    exact Or.inl rfl

lemma Tidy.codeFree_of_mem_nals (h : s.Tidy) (hnal : nal ∈ s.nals) : CodeFree nal := by
  rcases List.mem_append.1 hnal with hnal | hnal
  · split at hnal
    · cases hnal
    · rw [List.mem_singleton.1 hnal]
      exact TidyFrom.codeFree h
  · obtain ⟨u, hu, rfl⟩ := List.mem_map.1 hnal
    exact TidyFrom.codeFree_of_mem h u hu

end Pieces

/-! ## The fragments of a tidy stream -/

section Fragments

variable {s : ByteStream} {f g : Fragment} {i : Nat}

/-- A fragment is the place of the unit of a piece. -/
lemma exists_piece_of_getElem? (hf : s.index[i]? = some f) : ∃ p, s.pieces[i]? = some p ∧
    f.offset = (Piece.joined (s.pieces.take i)).length + p.header.length ∧
      f.length = p.unit.length ∧ Bytes.slice? s.bytes f.offset f.length = some p.unit := by
  rw [← places_pieces] at hf
  obtain ⟨p, hp, hoffset, hlength⟩ := Piece.exists_of_getElem?_places hf
  refine ⟨p, hp, hoffset, hlength, ?_⟩
  rw [hoffset, hlength, ← joined_pieces, Piece.slice?_unit hp]

/-- The fragments hold no start code. -/
lemma Tidy.codeFree_of_mem_index (h : s.Tidy) (hf : f ∈ s.index) :
    ∃ nal, Bytes.slice? s.bytes f.offset f.length = some nal ∧ CodeFree nal := by
  obtain ⟨i, hi⟩ := List.mem_iff_getElem?.1 hf
  obtain ⟨p, hp, -, -, hslice⟩ := exists_piece_of_getElem? hi
  refine ⟨p.unit, hslice, h.codeFree_of_mem_nals ?_⟩
  rw [← map_unit_pieces]
  exact List.mem_map_of_mem (List.mem_of_getElem? hp)

/-- Only the stream without bytes has no fragment. -/
lemma index_eq_nil_iff (s : ByteStream) : s.index = [] ↔ s.bytes = [] := by
  obtain ⟨lead, units⟩ := s
  cases lead with
  | cons b lead => simp [index, bytes]
  | nil =>
    cases units with
    | nil => simp [index, bytes, indexFrom]
    | cons u us =>
      have hcode : u.1.bytes ≠ [] := by cases u.1 <;> decide
      simp [index, bytes, indexFrom, hcode]

/-- Units behind start codes do not stand at offset zero. -/
lemma offset_pos_of_mem_indexFrom {us : List (StartCode × Bytes)} {offset : Nat}
    (hf : f ∈ indexFrom offset us) : 0 < f.offset := by
  induction us generalizing offset with
  | nil => cases hf
  | cons u us ih =>
    have hsize : 0 < u.1.size := by cases u.1 <;> decide
    rcases List.mem_cons.1 hf with rfl | hf
    · exact Nat.add_pos_right _ hsize
    · exact ih hf

/-- There is a fragment at offset zero just if there are leading bytes. -/
lemma exists_offset_eq_zero_iff (s : ByteStream) :
    (∃ f ∈ s.index, f.offset = 0) ↔ s.lead ≠ [] := by
  cases hlead : s.lead with
  | nil =>
    have hindex : s.index = indexFrom 0 s.units := by simp [index, hlead]
    rw [hindex]
    refine iff_of_false ?_ fun h => h rfl
    rintro ⟨f, hf, h0⟩
    exact (offset_pos_of_mem_indexFrom hf).ne' h0
  | cons b lead => simp [index, hlead]

/-- There are leading bytes just if the stream does not begin with a start code. -/
lemma Tidy.lead_ne_nil_iff (h : s.Tidy) :
    s.lead ≠ [] ↔ s.bytes ≠ [] ∧ ∀ code : StartCode, ¬ code.bytes <+: s.bytes := by
  have hparse := parse_bytes h
  generalize s.bytes = data at hparse
  subst hparse
  constructor
  · intro hlead
    refine ⟨?_, ?_⟩
    · rintro rfl
      exact hlead (by simp [parse])
    · rintro code ⟨rest, rfl⟩
      rw [parse_code] at hlead
      exact hlead rfl
  · rintro ⟨hne, hcode⟩
    obtain ⟨b, rest, rfl⟩ := List.exists_cons_of_ne_nil hne
    rw [parse_cons hcode]
    exact nofun

/-- The bytes before the first fragment are none or a start code. -/
lemma take_offset_of_head? (hf : s.index.head? = some f) :
    f.offset = 0 ∨ ∃ code : StartCode, s.bytes.take f.offset = code.bytes := by
  rw [List.head?_eq_getElem?] at hf
  obtain ⟨p, hp, hoffset, -, -⟩ := exists_piece_of_getElem? hf
  rw [List.take_zero, Piece.joined_nil, List.length_nil, Nat.zero_add] at hoffset
  rcases header_zero hp with hnone | ⟨code, hcode⟩
  · exact Or.inl (by rw [hoffset, hnone, List.length_nil])
  · refine Or.inr ⟨code, ?_⟩
    rw [← joined_pieces, Piece.joined_eq hp, hoffset, ← hcode]
    simp

/-- The bytes between two neighbours are a start code that the first of them may stand in front
of. -/
lemma Tidy.between (h : s.Tidy) (hf : s.index[i]? = some f) (hg : s.index[i + 1]? = some g) :
    ∃ code : StartCode, g.offset = f.stop + code.size ∧
      Bytes.slice? s.bytes f.stop code.size = some code.bytes ∧
      ∀ nal, Bytes.slice? s.bytes f.offset f.length = some nal → Precedes nal code := by
  obtain ⟨p, hp, -, -, hunit⟩ := exists_piece_of_getElem? hf
  obtain ⟨q, hq, hoffset, -, -⟩ := exists_piece_of_getElem? hg
  obtain ⟨code, hcode, hcut⟩ := h.header_succ hp hq
  rw [← places_pieces] at hf
  have hstop := Piece.stop_eq_of_getElem?_places hf
  refine ⟨code, ?_, ?_, fun nal hnal => ?_⟩
  · rw [hoffset, hstop, hcode, StartCode.size]
  · rw [← joined_pieces, hstop, StartCode.size, ← hcode, Piece.slice?_header hq]
  · rw [hunit, Option.some.injEq] at hnal
    rwa [← hnal]

end Fragments

end ByteStream

/-! ## Units behind start codes -/

/-- Units behind start codes make up a tidy stream if they are code-free and neighbours fit. -/
lemma parse_framed {units : List (StartCode × Bytes)} (hfree : ∀ u ∈ units, CodeFree u.2)
    (hcut : units.IsChain fun u v => Precedes u.2 v.1) :
    ByteStream.parse (framed units) = ⟨[], units⟩ := by
  refine (ByteStream.tidyFrom_of_isChain codeFree_nil hfree ?_).parse_framed
  cases units with
  | nil => exact .singleton _
  | cons u us => exact List.isChain_cons_cons.2 ⟨precedes_nil u.1, hcut⟩

/-- **Units that were put behind start codes are found again.** Let each unit hold no start code,
and let none in front of a three-byte code end in a zero byte; units may be empty and may end in
zeros otherwise. Then the buffer has one fragment for each unit, in order, at the place where the
unit was put, and the fragments hold the units.

**Proof sketch.** The units behind their start codes are a tidy stream without leading bytes, so
the buffer is taken apart into just this stream (`parse_framed`). -/
theorem scan_framed (units : List (StartCode × Bytes)) (hfree : ∀ u ∈ units, CodeFree u.2)
    (hcut : units.IsChain fun u v => v.1 = .short → u.2.getLast? ≠ some 0) :
    (scan (framed units)).length = units.length ∧
    (∀ (i : Nat) (code : StartCode) (nal : Bytes), units[i]? = some (code, nal) →
      (scan (framed units))[i]? =
        some (⟨(framed (units.take i)).length + code.size, nal.length⟩ : Fragment)) ∧
    (scan (framed units)).units (framed units) = units.map Prod.snd := by
  have hparse : ByteStream.parse (framed units) = ⟨[], units⟩ := parse_framed hfree hcut
  have hpieces : (ByteStream.parse (framed units)).pieces = units.map ByteStream.piece := by
    rw [hparse]
    rfl
  have hplaces : scan (framed units) = Piece.places 0 (units.map ByteStream.piece) := by
    rw [scan, ← ByteStream.places_pieces, hpieces]
  refine ⟨?_, fun i code nal hi => ?_, ?_⟩
  · rw [hplaces, Piece.length_places, List.length_map]
  · rw [hplaces, Piece.getElem?_places, List.getElem?_map, hi, ← List.map_take, Nat.zero_add]
    rw [show Piece.joined ((units.take i).map ByteStream.piece) = framed (units.take i) from
      List.flatMap_map _ _ _]
    rfl
  · rw [units_scan, hparse]
    rfl

/-- Zeros at the ends of units, empty units and both start codes. -/
theorem scan_framed_trailing_zeros :
    let units : List (StartCode × Bytes) :=
      [(.short, [0x67, 0, 0, 0]), (.long, [0]), (.long, []), (.short, [1, 0, 0, 2]),
        (.short, [0, 0])]
    (∀ u ∈ units, CodeFree u.2) ∧
    (units.IsChain fun u v => v.1 = .short → u.2.getLast? ≠ some 0) ∧
    (scan (framed units)).length = 5 := by
  intro units
  have hfree : ∀ u ∈ units, CodeFree u.2 := by decide
  have hcut : units.IsChain fun u v => v.1 = .short → u.2.getLast? ≠ some 0 := by
    simp [units]
  exact ⟨hfree, hcut, (scan_framed units hfree hcut).1⟩

/-! ## Every buffer -/

/-- The index takes the buffer apart at its start codes. -/
structure Decomposes (data : Bytes) (index : FragmentIndex) : Prop where
  /-- The fragments are in order and do not overlap. -/
  sorted : index.Pairwise fun f g => f.stop ≤ g.offset
  /-- The fragments lie in the buffer. -/
  inside : ∀ f ∈ index, f.stop ≤ data.length
  /-- The fragments hold no start code. -/
  codeFree : ∀ f ∈ index, ∃ nal, Bytes.slice? data f.offset f.length = some nal ∧ CodeFree nal
  /-- Only the empty buffer has no fragment. -/
  eq_nil : index = [] ↔ data = []
  /-- There is a fragment at offset zero if there are bytes and they do not begin with a start
  code. -/
  lead : (∃ f ∈ index, f.offset = 0) ↔ data ≠ [] ∧ ∀ code : StartCode, ¬ code.bytes <+: data
  /-- The bytes before the first fragment are none or one start code. -/
  first : ∀ f, index.head? = some f →
    f.offset = 0 ∨ ∃ code : StartCode, data.take f.offset = code.bytes
  /-- The bytes between two neighbours are one start code, and in front of a three-byte code the
  fragment does not end in a zero byte. -/
  between : ∀ i f g, index[i]? = some f → index[i + 1]? = some g → ∃ code : StartCode,
    g.offset = f.stop + code.size ∧ Bytes.slice? data f.stop code.size = some code.bytes ∧
    (code = .short → ∀ nal, Bytes.slice? data f.offset f.length = some nal →
      nal.getLast? ≠ some 0)
  /-- The last fragment reaches the end of the buffer. -/
  last : ∀ f, index.getLast? = some f → f.stop = data.length
  /-- Start codes and fragments together are the buffer. -/
  tiled : ∃ s : ByteStream, s.bytes = data ∧ s.index = index

/-- **Every buffer is taken apart without loss**, whatever its bytes are.

**Proof sketch.** The buffer is the run of the pieces of a tidy stream, and the index says where
their units lie. So the start code in front of a unit is the header of its piece, and what the
stream's tidiness says of the units holds of the fragments. -/
theorem scan_decomposes (data : Bytes) : Decomposes data (scan data) := by
  have htidy := ByteStream.tidy_parse data
  have hbytes := ByteStream.bytes_parse data
  unfold scan
  generalize ByteStream.parse data = s at htidy hbytes
  subst hbytes
  constructor
  case sorted =>
    rw [← ByteStream.places_pieces]
    exact Piece.pairwise_places 0 s.pieces
  case inside =>
    rw [← ByteStream.places_pieces, ← ByteStream.joined_pieces]
    exact fun f hf => Piece.stop_le_of_mem_places hf
  case codeFree => exact fun f hf => htidy.codeFree_of_mem_index hf
  case eq_nil => exact s.index_eq_nil_iff
  case lead => exact s.exists_offset_eq_zero_iff.trans htidy.lead_ne_nil_iff
  case first => exact fun f hf => ByteStream.take_offset_of_head? hf
  case between =>
    intro i f g hf hg
    obtain ⟨code, hoffset, hcode, hcut⟩ := htidy.between hf hg
    exact ⟨code, hoffset, hcode, fun hshort nal hnal => hcut nal hnal hshort⟩
  case last =>
    rw [← ByteStream.places_pieces, ← ByteStream.joined_pieces]
    exact fun f hf => Piece.stop_eq_of_getLast?_places hf
  case tiled => exact ⟨s, rfl, rfl⟩

end LiveMedia.Nal
