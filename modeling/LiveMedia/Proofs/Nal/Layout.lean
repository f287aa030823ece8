import LiveMedia.Nal.ByteStream
import Mathlib.Data.List.Chain
import Mathlib.Tactic.Lemma

set_option autoImplicit false

/-!
# Where the units of a payload lie

A payload is a run of pieces: NAL units, each behind bytes that are no part of it. These bytes are
a start code, a length, or, in front of the leading bytes of a byte stream, nothing. Byte streams
and framed runs are both laid out in this way, so what is said here of pieces holds of the
fragment indexes of both.

## Main definitions

* `LiveMedia.Nal.Piece` — a NAL unit with the bytes in front of it.
* `LiveMedia.Nal.Piece.joined`, `LiveMedia.Nal.Piece.places` — the bytes of a run of pieces, and
  where the units lie in them.
* `LiveMedia.Nal.ByteStream.pieces`, `LiveMedia.Nal.Framing.pieces` — the pieces of a byte stream
  and of a run of units in a framing.

## Main results

* `LiveMedia.Nal.Piece.getElem?_places` — the place of the `i`-th unit.
* `LiveMedia.Nal.Piece.units_places` — the bytes at the places are the units.
* `LiveMedia.Nal.Piece.pairwise_places`, `LiveMedia.Nal.Piece.stop_le_of_mem_places` — the places
  are sorted, disjoint and inside.
* `LiveMedia.Nal.Piece.covered_iff` — they cover just the bytes that lie in no header.
-/

namespace LiveMedia

/-- The range behind `a` of the length of `b` holds `b`. -/
lemma Bytes.slice?_append (a b c : Bytes) :
    Bytes.slice? (a ++ b ++ c) a.length b.length = some b := by
  simp [Bytes.slice?]

/-- A range that lies inside holds as many bytes as it is long. -/
lemma Bytes.length_of_slice? {data part : Bytes} {start length : Nat}
    (h : Bytes.slice? data start length = some part) : part.length = length := by
  obtain ⟨hinside, hpart⟩ := Option.ite_none_right_eq_some.1 h
  rw [← Option.some.inj hpart, List.length_take_of_le]
  rw [List.length_drop]
  omega

namespace Nal

/-! ## Pieces -/

/-- A NAL unit with the bytes in front of it. -/
structure Piece where
  header : Bytes
  unit : Bytes

namespace Piece

variable {ps : List Piece} {p : Piece} {i : Nat}

/-- The bytes of a piece. -/
def bytes (p : Piece) : Bytes :=
  p.header ++ p.unit

@[simp] lemma length_bytes (p : Piece) : p.bytes.length = p.header.length + p.unit.length :=
  List.length_append

/-- The bytes of a run of pieces. -/
def joined (ps : List Piece) : Bytes :=
  ps.flatMap bytes

@[simp] lemma joined_nil : joined [] = [] := rfl

@[simp] lemma joined_cons (p : Piece) (ps : List Piece) :
    joined (p :: ps) = p.bytes ++ joined ps := rfl

@[simp] lemma joined_append (ps qs : List Piece) :
    joined (ps ++ qs) = joined ps ++ joined qs :=
  List.flatMap_append

/-- The places of the units of a run of pieces that starts at `offset`. -/
def places : (offset : Nat) → List Piece → FragmentIndex
  | _, [] => []
  | offset, p :: rest =>
    ⟨offset + p.header.length, p.unit.length⟩ :: places (offset + p.bytes.length) rest

@[simp] lemma length_places (offset : Nat) (ps : List Piece) :
    (places offset ps).length = ps.length := by
  induction ps generalizing offset with
  | nil => rfl
  | cons p ps ih => simp [places, ih]

/-- The unit of the `i`-th piece lies behind the pieces before it and its own header. -/
lemma getElem?_places (offset : Nat) (ps : List Piece) (i : Nat) :
    (places offset ps)[i]? = ps[i]?.map fun p =>
      ⟨offset + (joined (ps.take i)).length + p.header.length, p.unit.length⟩ := by
  induction ps generalizing offset i with
  | nil => rfl
  | cons p ps ih =>
    cases i with
    | zero => simp [places]
    | succ i => simp [places, ih, Nat.add_assoc]

/-- The bytes before a piece, its header, its unit and the bytes behind it. -/
lemma joined_eq (h : ps[i]? = some p) :
    joined ps = joined (ps.take i) ++ p.header ++ p.unit ++ joined (ps.drop (i + 1)) := by
  obtain ⟨hi, rfl⟩ := List.getElem?_eq_some_iff.1 h
  conv_lhs => rw [← List.take_append_drop i ps, List.drop_eq_getElem_cons hi]
  rw [joined_append, joined_cons, bytes, List.append_assoc, List.append_assoc, List.append_assoc]

/-- A unit is no longer than the run that it is part of. -/
lemma length_unit_le (h : p ∈ ps) : p.unit.length ≤ (joined ps).length := by
  obtain ⟨i, hi⟩ := List.mem_iff_getElem?.1 h
  rw [joined_eq hi]
  simp only [List.length_append]
  omega

/-- The bytes up to the end of a piece. -/
lemma joined_take_succ (h : ps[i]? = some p) :
    joined (ps.take (i + 1)) = joined (ps.take i) ++ p.header ++ p.unit := by
  rw [List.take_add_one, h, joined_append, List.append_assoc]
  exact congrArg _ (List.append_nil _)

/-! ## Units -/

/-- In front of a unit lies its header. -/
lemma slice?_header (h : ps[i]? = some p) :
    Bytes.slice? (joined ps) (joined (ps.take i)).length p.header.length = some p.header := by
  rw [joined_eq h, List.append_assoc _ p.unit]
  exact Bytes.slice?_append _ _ _

/-- At the place of a unit lies the unit. -/
lemma slice?_unit (h : ps[i]? = some p) :
    Bytes.slice? (joined ps) ((joined (ps.take i)).length + p.header.length) p.unit.length =
      some p.unit := by
  rw [joined_eq h, ← List.length_append]
  exact Bytes.slice?_append _ _ _

/-- A fragment is the place of one of the units. -/
lemma exists_of_getElem?_places {f : Fragment} (h : (places 0 ps)[i]? = some f) :
    ∃ p, ps[i]? = some p ∧ f.offset = (joined (ps.take i)).length + p.header.length ∧
      f.length = p.unit.length := by
  rw [getElem?_places] at h
  obtain ⟨p, hp, rfl⟩ := Option.map_eq_some_iff.1 h
  exact ⟨p, hp, by simp, rfl⟩

/-- The bytes at the places of the units are the units. -/
lemma units_places (ps : List Piece) :
    FragmentIndex.units (places 0 ps) (joined ps) = ps.map unit := by
  -- the run may stand behind other bytes
  have h : ∀ pre : Bytes,
      FragmentIndex.units (places pre.length ps) (pre ++ joined ps) = ps.map unit := by
    induction ps with
    | nil => exact fun _ => rfl
    | cons p ps ih =>
      intro pre
      have hunit : Bytes.slice? (pre ++ joined (p :: ps)) (pre.length + p.header.length)
          p.unit.length = some p.unit := by
        rw [joined_cons, bytes, ← List.length_append, ← List.append_assoc, ← List.append_assoc]
        exact Bytes.slice?_append _ _ _
      have hrest := ih (pre ++ p.bytes)
      rw [List.append_assoc, ← joined_cons, List.length_append] at hrest
      rw [FragmentIndex.units] at hrest ⊢
      rw [places, List.filterMap_cons, hunit, hrest]
      rfl
  exact h []

/-! ## Order -/

/-- The units of a run lie behind its start. -/
lemma le_offset_of_mem_places {f : Fragment} {offset : Nat} (h : f ∈ places offset ps) :
    offset ≤ f.offset := by
  obtain ⟨i, hi⟩ := List.mem_iff_getElem?.1 h
  rw [getElem?_places] at hi
  obtain ⟨p, -, rfl⟩ := Option.map_eq_some_iff.1 hi
  exact (Nat.le_add_right _ _).trans (Nat.le_add_right _ _)

/-- A unit reaches up to the end of its piece. -/
lemma stop_eq_of_getElem?_places {f : Fragment} (h : (places 0 ps)[i]? = some f) :
    f.stop = (joined (ps.take (i + 1))).length := by
  obtain ⟨p, hp, hoffset, hlength⟩ := exists_of_getElem?_places h
  rw [joined_take_succ hp, Fragment.stop, hoffset, hlength, List.length_append,
    List.length_append]

/-- The units of a run lie inside. -/
lemma stop_le_of_mem_places {f : Fragment} (h : f ∈ places 0 ps) :
    f.stop ≤ (joined ps).length := by
  obtain ⟨i, hi⟩ := List.mem_iff_getElem?.1 h
  rw [stop_eq_of_getElem?_places hi, ← List.take_append_drop (i + 1) ps, joined_append,
    List.take_append_drop, List.length_append]
  exact Nat.le_add_right _ _

/-- The last unit of a run reaches up to its end. -/
lemma stop_eq_of_getLast?_places {f : Fragment} (h : (places 0 ps).getLast? = some f) :
    f.stop = (joined ps).length := by
  rw [List.getLast?_eq_getElem?, length_places] at h
  have hstop := stop_eq_of_getElem?_places h
  rwa [List.take_of_length_le (by omega)] at hstop

/-- The units of a run lie one behind the other. -/
lemma pairwise_places (offset : Nat) (ps : List Piece) :
    (places offset ps).Pairwise fun f g => f.stop ≤ g.offset := by
  induction ps generalizing offset with
  | nil => exact .nil
  | cons p ps ih =>
    refine List.pairwise_cons.2 ⟨fun g hg => ?_, ih _⟩
    have hle := le_offset_of_mem_places hg
    rw [length_bytes, ← Nat.add_assoc] at hle
    exact hle

/-! ## Bytes -/

/-- Of two pieces the later one starts no earlier. -/
lemma length_joined_take_le (ps : List Piece) {i j : Nat} (hij : i ≤ j) :
    (joined (ps.take i)).length ≤ (joined (ps.take j)).length := by
  rw [← Nat.add_sub_cancel' hij, List.take_add, joined_append, List.length_append]
  exact Nat.le_add_right _ _

/-- A byte of a run lies in one of the pieces. -/
lemma exists_piece_at {pos : Nat} (hpos : pos < (joined ps).length) :
    ∃ i p, ps[i]? = some p ∧ (joined (ps.take i)).length ≤ pos ∧
      pos < (joined (ps.take (i + 1))).length := by
  induction ps generalizing pos with
  | nil => exact absurd hpos (Nat.not_lt_zero pos)
  | cons p ps ih =>
    rw [joined_cons, List.length_append] at hpos
    rcases Nat.lt_or_ge pos p.bytes.length with hfirst | hbehind
    · exact ⟨0, p, rfl, Nat.zero_le pos, by simpa using hfirst⟩
    · have hrest : pos - p.bytes.length < (joined ps).length := by omega
      obtain ⟨i, q, hq, hstart, hstop⟩ := ih hrest
      refine ⟨i + 1, q, hq, ?_, ?_⟩
      · rw [List.take_succ_cons, joined_cons, List.length_append]
        omega
      · rw [List.take_succ_cons, joined_cons, List.length_append]
        omega

/-- It lies in no other piece. -/
lemma eq_of_between {i j pos : Nat} (hi : (joined (ps.take i)).length ≤ pos)
    (hi' : pos < (joined (ps.take (i + 1))).length) (hj : (joined (ps.take j)).length ≤ pos)
    (hj' : pos < (joined (ps.take (j + 1))).length) : i = j := by
  rcases Nat.lt_trichotomy i j with hlt | heq | hgt
  · have hle := length_joined_take_le ps (show i + 1 ≤ j from hlt)
    omega
  · exact heq
  · have hle := length_joined_take_le ps (show j + 1 ≤ i from hgt)
    omega

/-- **The places cover just the bytes that lie in no header.**

**Proof sketch.** A byte lies in just one of the pieces, and there in the header or in the unit. -/
lemma covered_iff {pos : Nat} (hpos : pos < (joined ps).length) :
    (∃ f ∈ places 0 ps, f.offset ≤ pos ∧ pos < f.stop) ↔
      ¬ ∃ (i : Nat) (p : Piece) (f : Fragment), ps[i]? = some p ∧ (places 0 ps)[i]? = some f ∧
        pos < f.offset ∧ f.offset ≤ pos + p.header.length := by
  constructor
  · rintro ⟨g, hg, hstart, hstop⟩ ⟨i, p, f, hp, hf, hbefore, hbehind⟩
    obtain ⟨j, hj⟩ := List.mem_iff_getElem?.1 hg
    obtain ⟨q, hq, hoffset, -⟩ := exists_of_getElem?_places hj
    obtain ⟨p', hp', hoffset', -⟩ := exists_of_getElem?_places hf
    obtain rfl : p = p' := Option.some.inj (hp.symm.trans hp')
    have hfstop : f.offset ≤ f.stop := Nat.le_add_right _ _
    rw [stop_eq_of_getElem?_places hf] at hfstop
    rw [stop_eq_of_getElem?_places hj] at hstop
    obtain rfl : i = j := eq_of_between (by omega) (by omega) (by omega) hstop
    obtain rfl : f = g := Option.some.inj (hf.symm.trans hj)
    omega
  · intro hheader
    obtain ⟨i, p, hp, hstart, hstop⟩ := exists_piece_at hpos
    have hf := getElem?_places 0 ps i
    rw [hp, Option.map_some, Nat.zero_add] at hf
    refine ⟨_, List.mem_of_getElem? hf, ?_, (stop_eq_of_getElem?_places hf).symm ▸ hstop⟩
    by_contra hbefore
    refine hheader ⟨i, p, _, hp, hf, Nat.not_le.1 hbefore, ?_⟩
    dsimp only
    omega

end Piece

/-! ## Byte streams -/

namespace ByteStream

/-- A start code with the unit behind it. -/
def piece (u : StartCode × Bytes) : Piece :=
  ⟨u.1.bytes, u.2⟩

/-- The pieces of a byte stream: the leading bytes, if there are any, and each unit behind its
start code. -/
def pieces (s : ByteStream) : List Piece :=
  (if s.lead.isEmpty then [] else [⟨[], s.lead⟩]) ++ s.units.map piece

lemma joined_pieces (s : ByteStream) : Piece.joined s.pieces = s.bytes := by
  have hunits : Piece.joined (s.units.map piece) = s.units.flatMap fun u => u.1.bytes ++ u.2 :=
    List.flatMap_map _ _ _
  rw [pieces, Piece.joined_append, hunits, bytes]
  cases s.lead <;> simp [Piece.bytes]

lemma places_pieces (s : ByteStream) : Piece.places 0 s.pieces = s.index := by
  have hunits (offset : Nat) (us : List (StartCode × Bytes)) :
      Piece.places offset (us.map piece) = indexFrom offset us := by
    induction us generalizing offset with
    | nil => rfl
    | cons u us ih =>
      rw [List.map_cons, Piece.places, ih, Piece.length_bytes, ← Nat.add_assoc]
      rfl
  rw [index, pieces, ← hunits]
  cases s.lead <;> simp [Piece.places]

lemma map_unit_pieces (s : ByteStream) : s.pieces.map Piece.unit = s.nals := by
  rw [pieces, nals, List.map_append, List.map_map]
  cases s.lead <;> rfl

lemma length_le_of_mem_nals {s : ByteStream} {nal : Bytes} (h : nal ∈ s.nals) :
    nal.length ≤ s.bytes.length := by
  rw [← map_unit_pieces] at h
  obtain ⟨p, hp, rfl⟩ := List.mem_map.1 h
  rw [← joined_pieces]
  exact Piece.length_unit_le hp

/-- The index of a byte stream leads to its NAL units. -/
lemma units_index (s : ByteStream) : s.index.units s.bytes = s.nals := by
  rw [← places_pieces, ← joined_pieces, Piece.units_places, map_unit_pieces]

end ByteStream

/-- The fragments of a buffer are the NAL units between its start codes. -/
lemma units_scan (data : Bytes) : (scan data).units data = (ByteStream.parse data).nals := by
  have h := (ByteStream.parse data).units_index
  rwa [ByteStream.bytes_parse] at h

/-! ## Framed runs -/

namespace Framing

variable (framing : Framing) (nals : List Bytes)

lemma encode_cons (nal : Bytes) :
    framing.encode (nal :: nals) = framing.header nal ++ (nal ++ framing.encode nals) :=
  List.append_assoc _ _ _

/-- The pieces of a run of units in a framing. -/
def pieces : List Piece :=
  nals.map fun nal => ⟨framing.header nal, nal⟩

lemma joined_pieces : Piece.joined (framing.pieces nals) = framing.encode nals :=
  List.flatMap_map _ _ _

lemma places_pieces (offset : Nat) :
    Piece.places offset (framing.pieces nals) = framing.indexFrom offset nals := by
  induction nals generalizing offset with
  | nil => rfl
  | cons nal nals ih =>
    rw [pieces, List.map_cons, Piece.places, indexFrom, Piece.length_bytes, ← Nat.add_assoc]
    exact congrArg _ (ih _)

lemma length_index_frame : (framing.frame nals).index.length = nals.length := by
  rw [frame, ← places_pieces, Piece.length_places, pieces, List.length_map]

/-- The index of a framed run leads to its units. -/
lemma units_frame : (framing.frame nals).index.units (framing.frame nals).data = nals := by
  rw [frame, ← places_pieces, ← joined_pieces, Piece.units_places, pieces, List.map_map]
  exact List.map_id' nals

end Framing

end Nal

end LiveMedia
