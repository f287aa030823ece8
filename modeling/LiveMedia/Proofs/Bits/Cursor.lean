import LiveMedia.Bits.Cursor
import LiveMedia.Proofs.Bits.Source

set_option autoImplicit false

/-!
# A cursor over plain bytes as a bit source

A cursor over plain bytes has the bits behind its position left, and its reads are those of these
bits.

## Main definitions

* `LiveMedia.Bits.BitCursor.left` — the bits behind the position.
-/

namespace LiveMedia.Bits.BitCursor

/-- The bits that are left to read. -/
def left (c : BitCursor) : List Bool :=
  (ofBytes c.data).drop c.position

lemma length_left (c : BitCursor) : c.left.length = c.remaining := by
  rw [left, List.length_drop, length_ofBytes, remaining]

/-- A new cursor has all bits left. -/
lemma left_new (data : Bytes) : left { data } = ofBytes data := rfl

/-- The cursor behind the next bit has the other bits left. -/
lemma left_eq (c : BitCursor) :
    c.left = (c.data[c.position / 8]?.map fun b => b.toNat.testBit (7 - c.position % 8)).toList ++
      left { c with position := c.position + 1 } := by
  rw [left, List.drop_eq_getElem?_toList_append, getElem?_ofBytes]
  rfl

lemma follows_bit : Follows (fun c bits => bits = left c) bit readBit := by
  rintro c _ rfl
  have hleft := c.left_eq
  rw [bit, outcome_bind, outcome_get]
  dsimp only
  cases hb : c.data[c.position / 8]? with
  | none =>
    have hnil : c.left = [] := by
      refine List.drop_eq_nil_of_le ?_
      have := List.getElem?_eq_none_iff.1 hb
      rw [length_ofBytes]
      omega
    rw [hnil]
    exact ⟨rfl, fun _ h => by cases h⟩
  | some b =>
    rw [hb] at hleft
    rw [hleft]
    exact ⟨rfl, fun _ _ => rfl⟩

/-- A read that asks for more bits than remain takes none, like on a bit string. -/
lemma outcome_takeBits_of_remaining_lt {n : Nat} {c : BitCursor} (h : c.remaining < n) :
    outcome (takeBits n) c.left = (.error .truncated, c.left) :=
  outcome_takeBits_of_lt (c.length_left.symm ▸ h)

lemma follows_field (n : Nat) : Follows (fun c bits => bits = left c) (field n) (readBits n) := by
  have hfield : field n = if maxFieldWidth < n then throw (.invalid .wideRead) else (do
      if (← get).remaining < n then
        throw .truncated
      Read.field bit n 0) := by
    unfold field
    split <;> rfl
  rw [hfield]
  refine .ite (.throw _) ?_
  rintro c _ rfl
  rw [outcome_bind, outcome_get]
  dsimp only
  by_cases hshort : c.remaining < n
  · rw [if_pos hshort, outcome_map, outcome_takeBits_of_remaining_lt hshort]
    exact ⟨rfl, fun _ h => by cases h⟩
  · rw [if_neg hshort]
    exact follows_bit.number n c _ rfl

lemma follows_skip (n : Nat) : Follows (fun c bits => bits = left c) (skip n) (skipBits n) := by
  rintro c _ rfl
  rw [skip, outcome_bind, outcome_get]
  dsimp only
  rcases length_lt_or_eq_append c.left n with hshort | ⟨skipped, rest, hlen, hleft⟩
  · rw [length_left] at hshort
    have hskip : outcome (skipBits n) c.left = (.error .truncated, c.left) := by
      show outcome ((fun _ => ()) <$> takeBits n) c.left = _
      rw [outcome_map, outcome_takeBits_of_remaining_lt hshort]
      rfl
    rw [if_pos hshort, hskip]
    exact ⟨rfl, fun _ h => by cases h⟩
  · have henough : ¬ c.remaining < n := by
      rw [← length_left, hleft, List.length_append, hlen]
      omega
    have hrest : left { c with position := c.position + n } = rest := by
      show (ofBytes c.data).drop (c.position + n) = rest
      rw [← List.drop_drop, ← left, hleft, List.drop_left' hlen]
    rw [if_neg henough, outcome_skipBits_eq_ok_iff.2 ⟨skipped, hlen, hleft⟩]
    exact ⟨rfl, fun _ _ => hrest.symm⟩

/-- A cursor over plain bytes reads the bits behind its position. -/
instance : LawfulBitSource BitCursor where
  Left c bits := bits = c.left
  follows_readBit := follows_bit
  follows_readBits := follows_field
  follows_skipBits := follows_skip

end LiveMedia.Bits.BitCursor
