import LiveMedia.Bits.Rbsp
import LiveMedia.Proofs.Bits.Cursor
import LiveMedia.Proofs.Nal.Emulation

set_option autoImplicit false

/-!
# A cursor over an escaped NAL unit as a bit source

A cursor over an escaped NAL unit has the bits of the payload left: those of the byte that it is
in, and those of the bytes behind it once their emulation-prevention bytes are dropped. So reading
an escaped unit directly is reading its payload, for every sequence of reads up to the first one
that fails.

## Main definitions

* `LiveMedia.Bits.RbspCursor.left` — the bits of the payload that are left.
* `LiveMedia.Bits.BitOp`, `LiveMedia.Bits.results` — reads, and their results up to the first
  failure.

## Main results

* `LiveMedia.Bits.RbspCursor.left_new` — a new cursor has the bits of the whole payload left.
* `LiveMedia.Bits.results_rbsp` — reading an escaped unit directly is reading its payload.
-/

namespace LiveMedia.Bits

/-! ## The bits that are left -/

namespace RbspCursor

open Nal (unescapeFrom isEscape zeroRunAfter)

/-- The bits of the payload that are left to read, once an emulation-prevention byte in front of
them is dropped. -/
def left (c : RbspCursor) : List Bool :=
  match c.dropEscape.rest with
  | [] => []
  | b :: tail =>
    ofNat (8 - c.bitPos) b.toNat ++
      ofBytes (unescapeFrom (zeroRunAfter c.dropEscape.zeros b) tail)

/-- Inside a byte nothing is dropped. -/
lemma dropEscape_of_ne {c : RbspCursor} (h : c.bitPos ≠ 0) : c.dropEscape = c := by
  unfold dropEscape
  split
  · exact if_neg fun hc => h hc.1
  · rfl

@[simp] lemma bitPos_dropEscape (c : RbspCursor) : c.dropEscape.bitPos = c.bitPos := by
  unfold dropEscape
  split
  · split <;> rfl
  · rfl

/-- At a byte boundary the bits left are those of the payload of the rest.

**Proof sketch.** If the first byte is an escape, it is dropped, and the run of zeros before it is
over, so that the byte behind it is none. Else the first byte is part of the payload. -/
lemma left_of_aligned {c : RbspCursor} (h : c.bitPos = 0) :
    c.left = ofBytes (unescapeFrom c.zeros c.rest) := by
  obtain ⟨rest, bitPos, zeros, skipped⟩ := c
  obtain rfl : bitPos = 0 := h
  cases rest with
  | nil => rfl
  | cons b tail =>
    by_cases hesc : isEscape zeros b tail = true
    · have hdrop : dropEscape ⟨b :: tail, 0, zeros, skipped⟩ = ⟨tail, 0, 0, skipped + 1⟩ :=
        if_pos ⟨rfl, hesc⟩
      simp only [left, hdrop, Nal.unescapeFrom_cons_of_isEscape hesc]
      cases tail with
      | nil => rfl
      | cons b' tail => rw [Nal.unescapeFrom_zero_cons]; rfl
    · have hkeep : dropEscape ⟨b :: tail, 0, zeros, skipped⟩ = ⟨b :: tail, 0, zeros, skipped⟩ :=
        if_neg fun hc => hesc hc.2
      simp only [left, hkeep, Nal.unescapeFrom_cons_of_not hesc]
      rfl

/-- A new cursor has the bits of the whole payload left. -/
lemma left_new (data : Bytes) : left { rest := data } = ofBytes (Nal.unescape data) :=
  left_of_aligned rfl

/-- Behind the next bit of its first byte a cursor has the other bits left. -/
lemma left_advance {c : RbspCursor} {b : UInt8} {tail : Bytes} (hpos : c.bitPos < 8)
    (hrest : c.dropEscape.rest = b :: tail) :
    c.left = b.toNat.testBit (7 - c.bitPos) :: (c.dropEscape.advance b tail).left ∧
      (c.dropEscape.advance b tail).bitPos < 8 := by
  obtain ⟨i, hi⟩ : ∃ i, 8 - c.bitPos = i + 1 := ⟨7 - c.bitPos, by omega⟩
  have hleft : c.left = b.toNat.testBit i ::
      (ofNat i b.toNat ++ ofBytes (unescapeFrom (zeroRunAfter c.dropEscape.zeros b) tail)) := by
    rw [left, hrest, hi]
    rfl
  rw [hleft, show 7 - c.bitPos = i by omega]
  unfold advance
  rw [bitPos_dropEscape]
  by_cases hend : c.bitPos + 1 = 8
  · obtain rfl : i = 0 := by omega
    rw [if_pos hend, left_of_aligned rfl]
    exact ⟨rfl, Nat.succ_pos 7⟩
  · rw [if_neg hend]
    have hin : dropEscape { c.dropEscape with bitPos := c.bitPos + 1 } =
        { c.dropEscape with bitPos := c.bitPos + 1 } :=
      dropEscape_of_ne (Nat.succ_ne_zero _)
    refine ⟨?_, by show c.bitPos + 1 < 8; omega⟩
    rw [left, hin]
    simp only [hrest]
    rw [show 8 - (c.bitPos + 1) = i by omega]

/-- The next bit is that of the byte in front, once an escape there is dropped. -/
lemma outcome_bit (c : RbspCursor) : outcome bit c =
    match c.dropEscape.rest with
    | [] => (.error .truncated, c.dropEscape)
    | b :: tail => (.ok (b.toNat.testBit (7 - c.bitPos)), c.dropEscape.advance b tail) := by
  rw [← bitPos_dropEscape c]
  show outcome (modify dropEscape >>= _) c = _
  rw [outcome_bind]
  show outcome (get >>= _) c.dropEscape = _
  rw [outcome_bind, outcome_get]
  dsimp only
  cases c.dropEscape.rest <;> rfl

lemma follows_bit : Follows (fun c bits => c.bitPos < 8 ∧ bits = left c) bit readBit := by
  rintro c _ ⟨hpos, rfl⟩
  rw [outcome_bit]
  cases hrest : c.dropEscape.rest with
  | nil =>
    rw [left, hrest]
    exact ⟨rfl, fun _ h => by cases h⟩
  | cons b tail =>
    obtain ⟨hleft, hpos'⟩ := left_advance hpos hrest
    rw [hleft]
    exact ⟨rfl, fun _ _ => ⟨hpos', rfl⟩⟩

lemma follows_field (n : Nat) :
    Follows (fun c bits => c.bitPos < 8 ∧ bits = left c) (field n) (readBits n) := by
  have hfield : field n =
      if maxFieldWidth < n then throw (.invalid .wideRead) else Read.field bit n 0 := by
    unfold field
    split <;> rfl
  rw [hfield]
  exact .ite (.throw _) (follows_bit.number n)

/-- A cursor over an escaped NAL unit reads the bits of its payload. -/
instance : LawfulBitSource RbspCursor where
  Left c bits := c.bitPos < 8 ∧ bits = c.left
  follows_readBit := follows_bit
  follows_readBits := follows_field
  follows_skipBits := follows_bit.skip

end RbspCursor

/-! ## Reads one after another -/

/-- A read. -/
inductive BitOp where
  | bit
  | bits (n : Nat)
  | ue
  | se
  | u8
  | u16
  | u32
  | skip (n : Nat)
  deriving DecidableEq, Repr

/-- What a read returns. -/
inductive BitOp.Value where
  | bit (b : Bool)
  | number (n : Nat)
  | signed (k : Int)
  | nothing
  deriving DecidableEq, Repr

section

variable {σ : Type} [BitSource σ]

/-- Performs a read. -/
def BitOp.perform : BitOp → Read σ Value
  | .bit => .bit <$> readBit
  | .bits n => .number <$> readBits n
  | .ue => .number <$> readUe
  | .se => .signed <$> readSe
  | .u8 => .number <$> readBits 8
  | .u16 => .number <$> readBits 16
  | .u32 => .number <$> readBits 32
  | .skip n => (fun _ => .nothing) <$> skipBits n

/-- The results of reads one after another, up to the first one that fails. -/
def results : List BitOp → σ → List (Except MediaError BitOp.Value)
  | [], _ => []
  | op :: ops, s =>
    match outcome op.perform s with
    | (.ok v, s) => .ok v :: results ops s
    | (.error e, _) => [.error e]

variable [LawfulBitSource σ]

lemma BitOp.follows_perform (op : BitOp) : Follows Left (op.perform : Read σ Value) op.perform := by
  cases op with
  | bit => exact follows_readBit.map _
  | bits n => exact (follows_readBits n).map _
  | ue => exact follows_readUe.map _
  | se => exact follows_readSe.map _
  | u8 => exact (follows_readBits 8).map _
  | u16 => exact (follows_readBits 16).map _
  | u32 => exact (follows_readBits 32).map _
  | skip n => exact (follows_skipBits n).map _

/-- On a lawful source, reads give what they give on the bits that are left. -/
lemma results_eq_of_left {s : σ} {bits : List Bool} (h : Left s bits) (ops : List BitOp) :
    results ops s = results ops bits := by
  induction ops generalizing s bits with
  | nil => rfl
  | cons op ops ih =>
    obtain ⟨hresult, hleft⟩ := op.follows_perform s bits h
    unfold results
    rcases hs : outcome op.perform s with ⟨e | v, s'⟩ <;>
      rcases hb : outcome op.perform bits with ⟨e' | v', bits'⟩ <;>
      rw [hs, hb] at hresult hleft <;> cases hresult
    · rfl
    · exact congrArg (.ok v :: ·) (ih (hleft v rfl))

end

/-- **Reading an escaped unit directly is reading its payload.** Whatever a unit holds and whatever
is read from it, up to the first read that fails the results are those of the same reads from the
payload, with all emulation-prevention bytes dropped beforehand, and the first failure is the
same.

**Proof sketch.** Both cursors are lawful sources, and at the beginning both have the bits of the
payload left. The escaped cursor keeps this at every bit: in front of a byte it drops an escape just
where the payload has none, and inside a byte it drops nothing (`RbspCursor.left_advance`). -/
theorem results_rbsp (data : Bytes) (ops : List BitOp) :
    results ops ({ rest := data } : RbspCursor) =
      results ops ({ data := Nal.unescape data } : BitCursor) := by
  have hescaped : Left ({ rest := data } : RbspCursor) (ofBytes (Nal.unescape data)) :=
    ⟨Nat.succ_pos 7, (RbspCursor.left_new data).symm⟩
  have hplain : Left ({ data := Nal.unescape data } : BitCursor) (ofBytes (Nal.unescape data)) :=
    BitCursor.left_new _
  rw [results_eq_of_left hescaped, results_eq_of_left hplain]

/-- A code word with an escape between its zeros, and the end of the unit. -/
example : results [.ue, .bit, .bit] ({ rest := [0, 0, 3, 1, 255, 255, 255] } : RbspCursor) =
    [.ok (.number 0xFFFFFE), .ok (.bit true), .error .truncated] := by
  decide

end LiveMedia.Bits
