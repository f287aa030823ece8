import LiveMedia.Proofs.Nal.LengthPrefix

set_option autoImplicit false

/-!
# Reading unit by unit

A reader that is asked for one unit after another answers with the units of the longest run at the
front of the buffer, then with the fault that ends it, if the buffer goes on, and from then on with
nothing. So it comes to an end on every buffer.

## Main definitions

* `LiveMedia.Nal.UnitReader.answer` — the answer to one of the calls.
* `LiveMedia.Nal.UnitReader.pending` — the answers that are still to come.

## Main results

* `LiveMedia.Nal.UnitReader.next_eq` — a call gives the first of the pending answers.
* `LiveMedia.Nal.UnitReader.answers_exact` — the answers on every buffer.
-/

namespace LiveMedia.Nal

/-! ## Answers -/

/-- The answers that tell what has been split: the units, and then the fault. -/
def SplitUnits.answers (s : SplitUnits) : List (Except MediaError Bytes) :=
  s.units.map .ok ++ s.fault.toList.map .error

/-- All answers are units just if there is no fault. -/
lemma SplitUnits.answers_eq_map_ok_iff {s : SplitUnits} {nals : List Bytes} :
    s.answers = nals.map .ok ↔ s.units = nals ∧ s.fault = none := by
  obtain ⟨units, fault⟩ := s
  cases fault with
  | none =>
    simp only [answers, Option.toList_none, List.map_nil, List.append_nil, and_true]
    exact List.map_inj_right fun _ _ => Except.ok.inj
  | some e =>
    refine ⟨fun h => ?_, fun h => by cases h.2⟩
    have hmem : (.error e : Except MediaError Bytes) ∈ nals.map .ok := by
      rw [← h]
      simp [answers]
    obtain ⟨nal, -, heq⟩ := List.mem_map.1 hmem
    cases heq

namespace UnitReader

/-- The reader after a number of calls. -/
def after (r : UnitReader) : (calls : Nat) → UnitReader
  | 0 => r
  | calls + 1 => r.next.2.after calls

/-- The answer to the call with number `i`, from zero on. -/
def answer (r : UnitReader) (i : Nat) : Option (Except MediaError Bytes) :=
  (r.after i).next.1

/-- The answers that are still to come. -/
def pending (r : UnitReader) : List (Except MediaError Bytes) :=
  if r.failed then [] else (splitLengthPrefixed r.width (r.data.drop r.offset)).answers

/-- **A call gives the first of the pending answers** and leaves the others.

**Proof sketch.** The ranges that the reader takes from the buffer are those that are split off the
bytes behind its offset, and where one of them does not lie inside, the split has its fault. -/
lemma next_eq (r : UnitReader) : r.next.1 = r.pending.head? ∧ r.next.2.pending = r.pending.tail := by
  obtain ⟨width, data, offset, failed⟩ := r
  have hpos := width.pos
  cases failed with
  | true => exact ⟨rfl, rfl⟩
  | false =>
  by_cases hend : data.length ≤ offset
  · have hnext : next ⟨width, data, offset, false⟩ = (none, ⟨width, data, offset, false⟩) := by
      simp [next, hend]
    have hpending : pending ⟨width, data, offset, false⟩ = [] := by
      simp only [pending, List.drop_eq_nil_of_le hend, splitLengthPrefixed_nil]
      rfl
    rw [hnext, hpending]
    exact ⟨rfl, rfl⟩
  have hlen : (data.drop offset).length = data.length - offset := List.length_drop
  have hempty : ¬ (data.drop offset).isEmpty = true := by
    rw [List.isEmpty_iff_length_eq_zero]
    omega
  rw [next, if_neg (by simpa using hend), pending, if_neg Bool.false_ne_true, splitLengthPrefixed,
    if_neg hempty]
  dsimp only
  by_cases hshort : (data.drop offset).length < width.bytes
  · rw [if_pos hshort, Bytes.slice?, if_neg (by omega)]
    exact ⟨rfl, rfl⟩
  rw [if_neg hshort, Bytes.slice?, if_pos (by omega)]
  dsimp only
  set length := Bytes.toNatBE ((data.drop offset).take width.bytes)
  have hrest : (data.drop offset).drop width.bytes = data.drop (offset + width.bytes) :=
    List.drop_drop
  have hlenRest : (data.drop (offset + width.bytes)).length = data.length - (offset + width.bytes) :=
    List.length_drop
  rw [hrest]
  by_cases hbeyond : (data.drop (offset + width.bytes)).length < length
  · rw [if_pos hbeyond, Bytes.slice?, if_neg (by omega)]
    exact ⟨rfl, rfl⟩
  · rw [if_neg hbeyond, Bytes.slice?, if_pos (by omega)]
    refine ⟨rfl, ?_⟩
    simp only [pending, List.drop_drop]
    rfl

/-- The answers are the pending ones, one after another. -/
lemma answer_eq (r : UnitReader) (i : Nat) : r.answer i = r.pending[i]? := by
  induction i generalizing r with
  | zero =>
    rw [← List.head?_eq_getElem?]
    exact r.next_eq.1
  | succ i ih =>
    rw [← List.getElem?_tail, ← r.next_eq.2]
    exact ih r.next.2

/-- A new reader has all of the split pending. -/
lemma answer_new (width : PrefixWidth) (data : Bytes) (i : Nat) :
    answer { width, data } i = (splitLengthPrefixed width data).answers[i]? :=
  answer_eq _ i

/-- Every unit has a length in front of it. -/
lemma mul_le_length_encode (width : Nat) (nals : List Bytes) :
    nals.length * width ≤ ((Framing.lengthPrefix width).encode nals).length := by
  induction nals with
  | nil => simp
  | cons nal nals ih =>
    rw [Framing.encode_cons, Framing.header, List.length_append, List.length_append,
      Bytes.length_ofNatBE, List.length_cons, Nat.succ_mul]
    omega

/-- There are no more answers than lengths fit in the buffer, and one. -/
lemma length_answers_le (width : PrefixWidth) (data : Bytes) :
    (splitLengthPrefixed width data).answers.length ≤ data.length / width.bytes + 1 := by
  obtain ⟨rest, hdata, -, -⟩ := exists_ends width data
  have hunits : (splitLengthPrefixed width data).units.length ≤ data.length / width.bytes := by
    rw [Nat.le_div_iff_mul_le width.pos]
    refine (mul_le_length_encode _ _).trans ?_
    have hlen := congrArg List.length hdata
    rw [List.length_append] at hlen
    omega
  have hfault : (splitLengthPrefixed width data).fault.toList.length ≤ 1 := by
    cases (splitLengthPrefixed width data).fault <;> simp
  rw [SplitUnits.answers, List.length_append, List.length_map, List.length_map]
  omega

/-- **A reader answers with the units of a buffer, and with one fault if there is one.** On a
buffer the answers are some units and then nothing just if the buffer is the run of these units,
each behind its length, and every length can be written in the prefix. On any buffer they are the
units of the longest such run at its front, then the fault that stands behind it if the buffer goes
on, and then nothing: a length that is cut short, or one that declares more than there is. After as
many calls as lengths fit in the buffer, and one, nothing more is answered.

**Proof sketch.** The answers are those of the split, call by call (`answer_eq`). The split reads
the units of a run whatever follows it (`splitLengthPrefixed_encode_append`), so that no run at the
front is longer, and what it leaves is what the fault is about (`exists_ends`). -/
theorem answers_exact (width : PrefixWidth) (data : Bytes) :
    (∀ nals : List Bytes, (∀ i, answer { width, data } i = (nals.map .ok)[i]?) ↔
      (Framing.lengthPrefix width.bytes).encode nals = data ∧
        ∀ nal ∈ nals, nal.length < 256 ^ width.bytes) ∧
    (∃ nals rest fault, (Framing.lengthPrefix width.bytes).encode nals ++ rest = data ∧
      (∀ nal ∈ nals, nal.length < 256 ^ width.bytes) ∧
      (∀ nals' rest', (Framing.lengthPrefix width.bytes).encode nals' ++ rest' = data →
        (∀ nal ∈ nals', nal.length < 256 ^ width.bytes) → nals' <+: nals) ∧
      Ends width rest fault ∧
      ∀ i, answer { width, data } i = (nals.map .ok ++ fault.toList.map .error)[i]?) ∧
    ∀ i, data.length / width.bytes < i → answer { width, data } i = none := by
  refine ⟨fun nals => ?_, ?_, fun i hi => ?_⟩
  · have hread : (splitLengthPrefixed width data).answers = nals.map .ok ↔
        readLengthPrefixed width data = .ok nals := by
      rw [SplitUnits.answers_eq_map_ok_iff, readLengthPrefixed]
      cases (splitLengthPrefixed width data).fault <;> simp
    rw [← readLengthPrefixed_eq_ok_iff, ← hread]
    simp only [answer_new]
    exact List.ext_getElem?_iff.symm
  · obtain ⟨rest, hdata, hfits, hends⟩ := exists_ends width data
    refine ⟨_, rest, _, hdata, hfits, ?_, hends, answer_new width data⟩
    rintro nals' rest' hdata' hfits'
    rw [← hdata', splitLengthPrefixed_encode_append hfits']
    exact List.prefix_append _ _
  · rw [answer_new, List.getElem?_eq_none_iff]
    have := length_answers_le width data
    omega

/-- A unit without bytes is read like any other, also in front of a length that declares too
much. -/
theorem answers_exact_empty_unit :
    let width : PrefixWidth := .clamp 2
    let whole : Bytes := [0, 1, 0x41, 0, 0]
    let broken : Bytes := whole ++ [0, 5, 0x42]
    (∀ i, answer { width, data := whole } i = ([.ok [0x41], .ok []] : List _)[i]?) ∧
    (∃ nals rest fault, (Framing.lengthPrefix 2).encode nals ++ rest = broken ∧
      [[0x41], []] <+: nals ∧ Ends width rest fault ∧
      ∀ i, answer { width, data := broken } i = (nals.map .ok ++ fault.toList.map .error)[i]?) ∧
    answer { width, data := broken } 5 = none := by
  intro width whole broken
  refine ⟨((answers_exact width whole).1 [[0x41], []]).2 ⟨rfl, by decide⟩, ?_,
    (answers_exact width broken).2.2 5 (by decide)⟩
  obtain ⟨nals, rest, fault, hdata, -, hlongest, hends, hanswer⟩ := (answers_exact width broken).2.1
  exact ⟨nals, rest, fault, hdata, hlongest [[0x41], []] [0, 5, 0x42] rfl (by decide), hends, hanswer⟩

/-- The fault is answered once. -/
example : (List.range 5).map (answer { width := .clamp 2, data := [0, 1, 0x41, 0, 0, 0, 5, 0x42] }) =
    [some (.ok [0x41]), some (.ok []), some (.error (.invalid .nalLengthExceeds)), none, none] := by
  decide

end UnitReader

end LiveMedia.Nal
