import LiveMedia.Nal.Emulation
import LiveMedia.Proofs.Nal.Scan

set_option autoImplicit false

/-!
# Emulation prevention

What stands in a unit after emulation prevention: behind two zero bytes there is no byte below
`03`, and a `03` there is followed by a byte up to `03`. The strings of this form are just those
that the writer produces, and the reader turns each of them back into its payload. A start code is
not of this form.

## Main definitions

* `LiveMedia.Nal.Escaped` — the form of a string after emulation prevention.

## Main results

* `LiveMedia.Nal.escapeFrom_unescapeFrom` — every string of this form is written for its payload.
* `LiveMedia.Nal.escape_lossless` — no payload is lost, and no start code is written.
* `LiveMedia.Nal.unescapeFrom_take_escapeFrom` — what is read of an escaped string that is cut short.
-/

namespace LiveMedia.Nal

variable {zeros : Nat} {b x : UInt8} {nal before rest : Bytes}

/-! ## Escaped strings -/

/-- The string may follow `zeros` zero bytes after emulation prevention: behind two zero bytes a
byte is at least `03`, and a `03` is followed by a byte up to `03`. -/
def Escaped : (zeros : Nat) → Bytes → Prop
  | _, [] => True
  | zeros, b :: rest =>
    (2 ≤ zeros → 3 ≤ b ∧ (b = 3 → ∃ c ∈ rest.head?, c ≤ 3)) ∧ Escaped (zeroRunAfter zeros b) rest

@[simp] lemma zeroRunAfter_zero (zeros : Nat) : zeroRunAfter zeros 0 = zeros + 1 := rfl

lemma zeroRunAfter_of_ne (zeros : Nat) (h : b ≠ 0) : zeroRunAfter zeros b = 0 :=
  if_neg h

/-- What follows a part of an escaped string follows the zero bytes at the end of this part. -/
lemma Escaped.of_append (h : Escaped zeros (before ++ rest)) :
    Escaped (before.foldl zeroRunAfter zeros) rest := by
  induction before generalizing zeros with
  | nil => exact h
  | cons b before ih => exact ih h.2

/-- Two zero bytes of an escaped string are followed by a byte from `03` on, and a `03` by a byte
up to `03`. -/
lemma Escaped.of_zeros (h : Escaped zeros (before ++ 0 :: 0 :: x :: rest)) :
    3 ≤ x ∧ (x = 3 → ∃ c ∈ rest.head?, c ≤ 3) := by
  obtain ⟨-, -, h, -⟩ := h.of_append
  rw [zeroRunAfter_zero, zeroRunAfter_zero] at h
  exact h (by omega)

/-- An escaped string holds no start code. -/
lemma Escaped.codeFree (h : Escaped zeros nal) : CodeFree nal := by
  rintro ⟨before, rest, rfl⟩
  rw [List.append_assoc] at h
  exact absurd h.of_zeros.1 (by decide)

/-! ## Writing and reading -/

/-- A byte that does not follow two zero bytes, or is above `03`, is written as it is. -/
lemma escapeFrom_cons_of_not (h : ¬ (2 ≤ zeros ∧ b ≤ 3)) :
    escapeFrom zeros (b :: rest) = b :: escapeFrom (zeroRunAfter zeros b) rest :=
  if_neg h

lemma escapeFrom_zero_cons (b : UInt8) (rest : Bytes) :
    escapeFrom 0 (b :: rest) = b :: escapeFrom (zeroRunAfter 0 b) rest :=
  escapeFrom_cons_of_not fun h => absurd h.1 (by decide)

/-- Behind two zero bytes a payload that begins with a byte up to `03` is written behind a `03`,
and then as if there were no zero bytes before it. -/
lemma escapeFrom_cons_of_le (hz : 2 ≤ zeros) (hb : b ≤ 3) :
    escapeFrom zeros (b :: rest) = 3 :: escapeFrom 0 (b :: rest) := by
  rw [escapeFrom_zero_cons]
  exact if_pos ⟨hz, hb⟩

lemma isEscape_iff :
    isEscape zeros b rest = true ↔ 2 ≤ zeros ∧ b = 3 ∧ ∀ c ∈ rest.head?, c ≤ 3 := by
  simp [isEscape, Option.all_eq_true, and_assoc]

/-- An escape is dropped. -/
lemma unescapeFrom_cons_of_isEscape (h : isEscape zeros b rest = true) :
    unescapeFrom zeros (b :: rest) = unescapeFrom 0 rest :=
  if_pos h

/-- Any other byte is read as it is. -/
lemma unescapeFrom_cons_of_not (h : ¬ isEscape zeros b rest = true) :
    unescapeFrom zeros (b :: rest) = b :: unescapeFrom (zeroRunAfter zeros b) rest :=
  if_neg h

lemma unescapeFrom_zero_cons (b : UInt8) (rest : Bytes) :
    unescapeFrom 0 (b :: rest) = b :: unescapeFrom (zeroRunAfter 0 b) rest :=
  unescapeFrom_cons_of_not fun h => absurd (isEscape_iff.1 h).1 (by decide)

/-- What the writer produces is escaped.

**Proof sketch.** Induction along the payload. The zero bytes that the writer counts are those at
the end of what it has written. A `03` that it puts in front of a byte stands behind two zero bytes
and ends their run; a byte that it writes without one is above `03` or not behind two zero bytes. -/
lemma escaped_escapeFrom (zeros : Nat) (nal : Bytes) : Escaped zeros (escapeFrom zeros nal) := by
  induction nal generalizing zeros with
  | nil => trivial
  | cons b rest ih =>
    by_cases h : 2 ≤ zeros ∧ b ≤ 3
    · rw [escapeFrom_cons_of_le h.1 h.2, escapeFrom_zero_cons]
      refine ⟨fun _ => ⟨UInt8.le_refl 3, fun _ => ⟨b, rfl, h.2⟩⟩, ?_⟩
      rw [zeroRunAfter_of_ne zeros (by decide)]
      exact ⟨fun hz => absurd hz (by omega), ih _⟩
    · rw [escapeFrom_cons_of_not h]
      refine ⟨fun hz => ?_, ih _⟩
      have hb : 3 < b := UInt8.not_le.1 fun hb => h ⟨hz, hb⟩
      exact ⟨UInt8.le_of_lt hb, fun heq => absurd heq (UInt8.ne_of_lt hb).symm⟩

/-- Reading what was written for a payload gives the payload.

**Proof sketch.** Induction along the payload, with the same number of zero bytes on both sides.
Where the writer puts a `03`, the reader drops it and counts zero bytes from there, as the writer
does. A byte that is written as it is, is never an escape. -/
lemma unescapeFrom_escapeFrom (zeros : Nat) (nal : Bytes) :
    unescapeFrom zeros (escapeFrom zeros nal) = nal := by
  induction nal generalizing zeros with
  | nil => rfl
  | cons b rest ih =>
    by_cases h : 2 ≤ zeros ∧ b ≤ 3
    · have hesc : isEscape zeros 3 (escapeFrom 0 (b :: rest)) = true := by
        rw [escapeFrom_zero_cons]
        exact isEscape_iff.2 ⟨h.1, rfl, by simpa using h.2⟩
      rw [escapeFrom_cons_of_le h.1 h.2, unescapeFrom_cons_of_isEscape hesc, escapeFrom_zero_cons,
        unescapeFrom_zero_cons, ih]
    · have hkeep : ¬ isEscape zeros b (escapeFrom (zeroRunAfter zeros b) rest) = true := by
        intro hesc
        obtain ⟨hz, rfl, -⟩ := isEscape_iff.1 hesc
        exact h ⟨hz, UInt8.le_refl 3⟩
      rw [escapeFrom_cons_of_not h, unescapeFrom_cons_of_not hkeep, ih]

/-- **Every escaped string is written for its payload**, so the escaped strings are just those that
the writer produces.

**Proof sketch.** Induction along the reader. A `03` that it drops is followed by a byte up to
`03`, in front of which the writer puts it again. A byte that it keeps behind two zero bytes is
above `03`: a `03` there would be followed by a byte up to `03`, and be dropped. -/
theorem escapeFrom_unescapeFrom (h : Escaped zeros nal) :
    escapeFrom zeros (unescapeFrom zeros nal) = nal := by
  fun_induction unescapeFrom zeros nal with
  | case1 => rfl
  | case2 zeros b rest hesc ih =>
    obtain ⟨hz, rfl, -⟩ := isEscape_iff.1 hesc
    obtain ⟨c, hc, hle⟩ := (h.1 hz).2 rfl
    obtain ⟨rest, rfl⟩ := List.head?_eq_some_iff.1 hc
    have hrest := h.2
    rw [zeroRunAfter_of_ne zeros (by decide)] at hrest
    have ih := ih hrest
    rw [unescapeFrom_zero_cons] at ih ⊢
    rw [escapeFrom_cons_of_le hz hle, ih]
  | case3 zeros b rest hkeep ih =>
    have hnot : ¬ (2 ≤ zeros ∧ b ≤ 3) := by
      rintro ⟨hz, hb⟩
      obtain ⟨hge, hnext⟩ := h.1 hz
      have heq : b = 3 := UInt8.le_antisymm hb hge
      obtain ⟨c, hc, hle⟩ := hnext heq
      refine hkeep (isEscape_iff.2 ⟨hz, heq, fun d hd => ?_⟩)
      rw [Option.mem_unique hd hc]
      exact hle
    rw [escapeFrom_cons_of_not hnot, ih h.2]

/-- **Emulation prevention loses no payload and lets no start code through.** Whatever the payload
is, reading the written string gives it back; in the written string no byte below `03` stands
behind two zero bytes, a `03` there is followed by a byte up to `03`, and neither start code
occurs. -/
theorem escape_lossless (nal : Bytes) :
    unescape (escape nal) = nal ∧
    (∀ x : UInt8, x ≤ 2 → ¬ [0, 0, x] <:+: escape nal) ∧
    (∀ before rest : Bytes, escape nal = before ++ [0, 0, 3] ++ rest →
      ∃ c rest', rest = c :: rest' ∧ c ≤ 3) ∧
    ∀ code : StartCode, ¬ code.bytes <:+: escape nal := by
  have hesc : Escaped 0 (escape nal) := escaped_escapeFrom 0 nal
  refine ⟨unescapeFrom_escapeFrom 0 nal, ?_, ?_, hesc.codeFree.not_infix⟩
  · rintro x hx ⟨before, rest, hsplit⟩
    rw [← hsplit, List.append_assoc] at hesc
    exact absurd (UInt8.le_trans hesc.of_zeros.1 hx) (by decide)
  · intro before rest hsplit
    rw [hsplit, List.append_assoc] at hesc
    obtain ⟨c, hc, hle⟩ := hesc.of_zeros.2 rfl
    obtain ⟨rest', rfl⟩ := List.head?_eq_some_iff.1 hc
    exact ⟨c, rest', rfl, hle⟩

/-- Runs of zeros, a start code, a `03` of the payload and two zeros at the end. -/
theorem escape_lossless_zero_runs :
    let nal : Bytes := [0, 0, 0, 1, 0, 0, 3, 0, 0]
    escape nal = [0, 0, 3, 0, 1] ++ [0, 0, 3] ++ [3, 0, 0] ∧
    (∃ (c : UInt8) (rest' : Bytes), [3, 0, 0] = c :: rest' ∧ c ≤ 3) ∧
    unescape (escape nal) = nal := by
  intro nal
  have hnal : escape nal = [0, 0, 3, 0, 1] ++ [0, 0, 3] ++ [3, 0, 0] := by decide
  obtain ⟨hback, -, hnext, -⟩ := escape_lossless nal
  exact ⟨hnal, hnext _ _ hnal, hback⟩

/-! ## Escaped strings cut short -/

/-- What is written for the front of a payload is the front of what is written for the whole. -/
lemma escapeFrom_prefix (zeros : Nat) (nal rest : Bytes) :
    escapeFrom zeros nal <+: escapeFrom zeros (nal ++ rest) := by
  induction nal generalizing zeros with
  | nil => exact List.nil_prefix
  | cons b nal ih =>
    by_cases h : 2 ≤ zeros ∧ b ≤ 3
    · rw [List.cons_append, escapeFrom_cons_of_le h.1 h.2, escapeFrom_cons_of_le h.1 h.2,
        escapeFrom_zero_cons, escapeFrom_zero_cons]
      exact List.cons_prefix_cons.2 ⟨rfl, List.cons_prefix_cons.2 ⟨rfl, ih _⟩⟩
    · rw [List.cons_append, escapeFrom_cons_of_not h, escapeFrom_cons_of_not h]
      exact List.cons_prefix_cons.2 ⟨rfl, ih _⟩

/-- What is written for a payload ends in its last byte. -/
lemma getLast?_escapeFrom (zeros : Nat) (nal : Bytes) :
    (escapeFrom zeros nal).getLast? = nal.getLast? := by
  induction nal generalizing zeros with
  | nil => rfl
  | cons b nal ih =>
    have hcons : ∀ zeros', (b :: escapeFrom zeros' nal).getLast? = (b :: nal).getLast? := by
      intro zeros'
      rw [List.getLast?_cons, List.getLast?_cons, ih]
    by_cases h : 2 ≤ zeros ∧ b ≤ 3
    · rw [escapeFrom_cons_of_le h.1 h.2, escapeFrom_zero_cons, List.getLast?_cons_cons, hcons]
    · rw [escapeFrom_cons_of_not h, hcons]

/-- Of an escaped payload that is cut inside what is written for its first `i + 1` bytes, no more
than `i` bytes are read.

**Proof sketch.** Induction along the payload. A cut behind a `03` that the writer has put in front
of a byte leaves a `03` at the end, which the reader drops. -/
lemma unescapeFrom_take_escapeFrom (zeros : Nat) (nal : Bytes) (m i : Nat)
    (hm : m < (escapeFrom zeros (nal.take (i + 1))).length) :
    ∃ k ≤ i, unescapeFrom zeros ((escapeFrom zeros nal).take m) = nal.take k := by
  induction nal generalizing zeros m i with
  | nil => cases hm
  | cons b nal ih =>
    rw [List.take_succ_cons] at hm
    -- what is left of the bytes behind the first one
    have hrest : ∀ zeros' m', m' < (escapeFrom zeros' (nal.take i)).length →
        ∃ k ≤ i, b :: unescapeFrom zeros' ((escapeFrom zeros' nal).take m') = (b :: nal).take k := by
      intro zeros' m' hm'
      cases i with
      | zero => cases hm'
      | succ i =>
        obtain ⟨k, hk, heq⟩ := ih zeros' m' i hm'
        exact ⟨k + 1, Nat.succ_le_succ hk, by rw [heq, List.take_succ_cons]⟩
    by_cases h : 2 ≤ zeros ∧ b ≤ 3
    · rw [escapeFrom_cons_of_le h.1 h.2, escapeFrom_zero_cons] at hm ⊢
      match m, hm with
      | 0, _ => exact ⟨0, Nat.zero_le _, rfl⟩
      | 1, _ =>
        have hesc : isEscape zeros 3 [] = true := isEscape_iff.2 ⟨h.1, rfl, by simp⟩
        exact ⟨0, Nat.zero_le _, unescapeFrom_cons_of_isEscape hesc⟩
      | m + 2, hm =>
        simp only [List.length_cons, Nat.add_lt_add_iff_right] at hm
        rw [List.take_succ_cons, List.take_succ_cons]
        have hesc : isEscape zeros 3 (b :: (escapeFrom (zeroRunAfter 0 b) nal).take m) = true :=
          isEscape_iff.2 ⟨h.1, rfl, by simpa using h.2⟩
        rw [unescapeFrom_cons_of_isEscape hesc, unescapeFrom_zero_cons]
        exact hrest _ m hm
    · rw [escapeFrom_cons_of_not h] at hm ⊢
      match m, hm with
      | 0, _ => exact ⟨0, Nat.zero_le _, rfl⟩
      | m + 1, hm =>
        simp only [List.length_cons, Nat.add_lt_add_iff_right] at hm
        have hkeep : ¬ isEscape zeros b ((escapeFrom (zeroRunAfter zeros b) nal).take m) = true := by
          intro hesc
          obtain ⟨hz, rfl, -⟩ := isEscape_iff.1 hesc
          exact h ⟨hz, UInt8.le_refl 3⟩
        rw [List.take_succ_cons, unescapeFrom_cons_of_not hkeep]
        exact hrest _ m hm

end LiveMedia.Nal
