import LiveMedia.Bits.OctetCursor
import LiveMedia.Proofs.Bits.Rbsp

set_option autoImplicit false

/-!
# A cursor that counts in bytes stands at a bit

A cursor that counts bytes and bits apart does just what a cursor does that counts bits, and comes
to the same place, whether a read succeeds or fails. So after any reads it stands at some bit of
its data or at their end, a field and a skip take the next bits or nothing at all, and both agree
with bits that are read one by one.

## Main definitions

* `LiveMedia.Bits.performAll` — reads one after another, failures included.
* `LiveMedia.Bits.OctetCursor.atBit` — the cursor that stands at a bit.
* `LiveMedia.Bits.OctetCursor.Mirrors` — two programs give the same result and come to the same
  place.

## Main results

* `LiveMedia.Bits.BitCursor.outcome_readBits`, `LiveMedia.Bits.BitCursor.outcome_skipBits` — what a
  field and a skip do at any place.
* `LiveMedia.Bits.OctetCursor.mirrors_perform` — the reads of the two cursors.
* `LiveMedia.Bits.OctetCursor.reads_in_place` — a cursor after any reads.
-/

namespace LiveMedia.Bits

/-! ## Reads one after another, failures included -/

/-- The results of reads one after another, whether they fail or not, and the source behind them. -/
def performAll {σ : Type} [BitSource σ] :
    List BitOp → σ → List (Except MediaError BitOp.Value) × σ
  | [], s => ([], s)
  | op :: ops, s =>
    let (r, s) := outcome op.perform s
    let (rs, s) := performAll ops s
    (r :: rs, s)

section

variable {σ : Type} [BitSource σ] {I : σ → Prop}

/-- What every bit, field and skip keeps, every read keeps. -/
lemma BitOp.preserves_perform (hbit : Preserves I readBit) (hbits : ∀ n, Preserves I (readBits n))
    (hskip : ∀ n, Preserves I (skipBits n)) (op : BitOp) : Preserves I op.perform := by
  have hzeros : ∀ budget, Preserves I (leadingZeros budget) := by
    intro budget
    induction budget with
    | zero => exact .throw _
    | succ budget ih =>
      refine hbit.bind fun b => ?_
      cases b with
      | true => exact .pure _
      | false => exact ih.bind fun _ => .pure _
  have hue : Preserves I readUe := (hzeros _).bind fun _ => (hbits _).bind fun _ => .pure _
  cases op with
  | bit => exact hbit.map _
  | bits n => exact (hbits n).map _
  | ue => exact hue.map _
  | se => exact (hue.bind fun _ => .pure _).map _
  | u8 => exact (hbits 8).map _
  | u16 => exact (hbits 16).map _
  | u32 => exact (hbits 32).map _
  | skip n => exact (hskip n).map _

/-- What every read keeps, reads one after another keep. -/
lemma performAll_keeps (h : ∀ op : BitOp, Preserves I op.perform) (ops : List BitOp) {s : σ}
    (hs : I s) : I (performAll ops s).2 := by
  induction ops generalizing s with
  | nil => exact hs
  | cons op ops ih => exact ih (h op s hs)

end

/-! ## The cursor that counts bits -/

namespace BitCursor

variable {c : BitCursor} {taken rest : List Bool}

/-- The cursor `n` bits further on. -/
def advance (c : BitCursor) (n : Nat) : BitCursor :=
  { c with position := c.position + n }

lemma advance_advance (c : BitCursor) (m n : Nat) : (c.advance m).advance n = c.advance (m + n) := by
  rw [advance, advance, advance, Nat.add_assoc]

lemma left_advance (c : BitCursor) (n : Nat) : (c.advance n).left = c.left.drop n :=
  List.drop_drop.symm

/-- The next bit is one of the byte at the position. -/
lemma outcome_bit_of_byte (c : BitCursor) : outcome bit c =
    c.data[c.position / 8]?.elim (.error .truncated, c) fun b =>
      (.ok (b.toNat.testBit (7 - c.position % 8)), c.advance 1) := by
  rw [bit, outcome_bind, outcome_get]
  dsimp only
  cases c.data[c.position / 8]? <;> rfl

/-- The next bit is the first of those that are left. -/
lemma outcome_bit (c : BitCursor) : outcome bit c =
    c.left.head?.elim (.error .truncated, c) fun b => (.ok b, c.advance 1) := by
  rw [left, List.head?_drop, getElem?_ofBytes, outcome_bit_of_byte]
  cases c.data[c.position / 8]? <;> rfl

/-- Bits that are read as a number. -/
lemma outcome_field_of_left (h : c.left = taken ++ rest) (value : Nat) :
    outcome (Read.field bit taken.length value) c =
      (.ok (2 ^ taken.length * value + toNat taken), c.advance taken.length) := by
  induction taken generalizing c value with
  | nil => simp [Read.field, toNat, advance]
  | cons b taken ih =>
    have hrest : (c.advance 1).left = taken ++ rest := by
      rw [left_advance, h]
      rfl
    have hvalue : 2 ^ taken.length * (2 * value + b.toNat) + toNat taken =
        2 ^ (taken.length + 1) * value + toNat (b :: taken) := by
      rw [toNat_cons, Nat.pow_succ, Nat.mul_add, Nat.mul_assoc, Nat.add_assoc]
    rw [List.length_cons, Read.field, outcome_bind, outcome_bit, h]
    show outcome (Read.field bit taken.length (2 * value + b.toNat)) (c.advance 1) = _
    rw [ih hrest, hvalue, advance_advance, Nat.add_comm 1]

/-- Bits that are read one by one. -/
lemma performAll_bits_of_left (h : c.left = taken ++ rest) :
    performAll (List.replicate taken.length .bit) c =
      (taken.map fun b => .ok (.bit b), c.advance taken.length) := by
  induction taken generalizing c with
  | nil => rfl
  | cons b taken ih =>
    have hrest : (c.advance 1).left = taken ++ rest := by
      rw [left_advance, h]
      rfl
    have hbit : outcome (BitOp.bit.perform : Read BitCursor BitOp.Value) c =
        (.ok (.bit b), c.advance 1) := by
      show outcome (BitOp.Value.bit <$> bit) c = _
      rw [outcome_map, outcome_bit, h]
      rfl
    rw [List.length_cons, List.replicate_succ, performAll, hbit]
    dsimp only
    rw [ih hrest, advance_advance, Nat.add_comm 1]
    rfl

/-- As many bits as remain are in front of the others. -/
lemma left_eq_take_append (c : BitCursor) {n : Nat} (h : n ≤ c.remaining) :
    (c.left.take n).length = n ∧ c.left = c.left.take n ++ c.left.drop n :=
  ⟨List.length_take_of_le (c.length_left.symm ▸ h), (List.take_append_drop _ _).symm⟩

/-- A field is the number of the next bits, or nothing is read. -/
lemma outcome_readBits (c : BitCursor) (n : Nat) : outcome (readBits n) c =
    if n ≤ maxFieldWidth ∧ n ≤ c.remaining then
      (.ok (toNat (c.left.take n)), c.advance n)
    else
      (.error (if maxFieldWidth < n then .invalid .wideRead else .truncated), c) := by
  have hfield : (readBits n : Read BitCursor Nat) =
      if maxFieldWidth < n then throw (.invalid .wideRead) else (do
        if (← get).remaining < n then
          throw .truncated
        Read.field bit n 0) := by
    show field n = _
    unfold field
    split <;> rfl
  rw [hfield]
  by_cases hwide : maxFieldWidth < n
  · rw [if_pos hwide, if_neg fun h => Nat.not_le.2 hwide h.1, if_pos hwide]
    rfl
  rw [if_neg hwide, if_neg hwide, outcome_bind, outcome_get]
  dsimp only
  by_cases hshort : c.remaining < n
  · rw [if_pos hshort, if_neg fun h => Nat.not_le.2 hshort h.2]
    rfl
  · obtain ⟨hlen, hleft⟩ := c.left_eq_take_append (Nat.not_lt.1 hshort)
    have hread := outcome_field_of_left hleft 0
    rw [hlen, Nat.mul_zero, Nat.zero_add] at hread
    rw [if_neg hshort, if_pos ⟨Nat.not_lt.1 hwide, Nat.not_lt.1 hshort⟩]
    exact hread

/-- A skip goes over the next bits, or stays where it is. -/
lemma outcome_skipBits (c : BitCursor) (n : Nat) : outcome (skipBits n) c =
    if n ≤ c.remaining then (.ok (), c.advance n) else (.error .truncated, c) := by
  show outcome (skip n) c = _
  rw [skip, outcome_bind, outcome_get]
  dsimp only
  by_cases hshort : c.remaining < n
  · rw [if_pos hshort, if_neg (Nat.not_le.2 hshort)]
    rfl
  · rw [if_neg hshort, if_pos (Nat.not_lt.1 hshort)]
    rfl

/-- The cursor stands at a bit of these data or at their end. -/
def Within (data : Bytes) (c : BitCursor) : Prop :=
  c.data = data ∧ c.position ≤ data.length * 8

variable {data : Bytes}

lemma Within.advance (h : c.Within data) {n : Nat} (hn : n ≤ c.remaining) :
    (c.advance n).Within data := by
  obtain ⟨rfl, hle⟩ := h
  refine ⟨rfl, ?_⟩
  show c.position + n ≤ _
  rw [remaining] at hn
  omega

/-- No read leaves the data. -/
lemma preserves_perform (op : BitOp) : Preserves (Within data) op.perform := by
  refine op.preserves_perform (fun c h => ?_) (fun n c h => ?_) (fun n c h => ?_)
  · show Within data (outcome bit c).2
    rw [outcome_bit]
    cases hleft : c.left with
    | nil => exact h
    | cons b rest =>
      refine h.advance ?_
      rw [← length_left, hleft, List.length_cons]
      omega
  · rw [outcome_readBits]
    split
    · rename_i hn
      exact h.advance hn.2
    · exact h
  · rw [outcome_skipBits]
    split
    · rename_i hn
      exact h.advance hn
    · exact h

end BitCursor

/-! ## The cursor that counts bytes -/

namespace OctetCursor

/-- The cursor that stands at a bit. -/
def atBit (data : Bytes) (p : Nat) : OctetCursor :=
  ⟨data, p / 8, p % 8⟩

@[simp] lemma position_atBit (data : Bytes) (p : Nat) : (atBit data p).position = p := by
  show p / 8 * 8 + p % 8 = p
  omega

@[simp] lemma remaining_atBit (data : Bytes) (p : Nat) :
    (atBit data p).remaining = data.length * 8 - p := by
  rw [remaining, position_atBit]
  rfl

lemma remainingBytes_atBit (data : Bytes) (p : Nat) :
    (atBit data p).remainingBytes = data.drop ((p + 7) / 8) := by
  show data.drop (if p % 8 = 0 then p / 8 else p / 8 + 1) = _
  congr 1
  split <;> omega

/-- One bit on, the byte is left behind its last bit. -/
lemma advance_atBit (data : Bytes) (p : Nat) : (atBit data p).advance = atBit data (p + 1) := by
  show (if p % 8 + 1 = 8 then (⟨data, p / 8 + 1, 0⟩ : OctetCursor) else ⟨data, p / 8, p % 8 + 1⟩) = _
  rw [atBit]
  split
  · rw [show (p + 1) / 8 = p / 8 + 1 by omega, show (p + 1) % 8 = 0 by omega]
  · rw [show (p + 1) / 8 = p / 8 by omega, show (p + 1) % 8 = p % 8 + 1 by omega]

/-- The cursor at the place of one that counts bits. -/
def ofBits (c : BitCursor) : OctetCursor :=
  atBit c.data c.position

section

variable {α β : Type} {x : Read OctetCursor α} {y : Read BitCursor α}

/-- From every place both programs give the same result and come to the same place, whether they
fail or not. -/
def Mirrors (x : Read OctetCursor α) (y : Read BitCursor α) : Prop :=
  ∀ c, outcome x (ofBits c) = ((outcome y c).1, ofBits (outcome y c).2)

namespace Mirrors

lemma pure (a : α) : Mirrors (Pure.pure a) (Pure.pure a) :=
  fun _ => rfl

lemma throw (e : MediaError) :
    Mirrors (MonadExcept.throw e : Read OctetCursor α) (MonadExcept.throw e) :=
  fun _ => rfl

/-- One program after another. -/
lemma bind {f : α → Read OctetCursor β} {g : α → Read BitCursor β} (hx : Mirrors x y)
    (hf : ∀ a, Mirrors (f a) (g a)) : Mirrors (x >>= f) (y >>= g) := by
  intro c
  rw [outcome_bind, outcome_bind, hx c]
  rcases outcome y c with ⟨e | a, c'⟩
  · rfl
  · exact hf a c'

lemma map (f : α → β) (hx : Mirrors x y) : Mirrors (f <$> x) (f <$> y) := by
  rw [← bind_pure_comp, ← bind_pure_comp]
  exact hx.bind fun _ => .pure _

lemma ite {p : Prop} [Decidable p] {x' : Read OctetCursor α} {y' : Read BitCursor α}
    (hx : Mirrors x y) (hx' : Mirrors x' y') :
    Mirrors (if p then x else x') (if p then y else y') := by
  split
  · exact hx
  · exact hx'

end Mirrors

end

/-- New cursors are at the same place. -/
lemma ofBits_new (data : Bytes) : ofBits { data } = { data } := by
  rw [ofBits, atBit, Nat.zero_div, Nat.zero_mod]

/-- As many bits remain. -/
lemma remaining_ofBits (c : BitCursor) : (ofBits c).remaining = c.remaining :=
  remaining_atBit _ _

/-- The next bit is one of the byte that has been begun. -/
lemma outcome_bit (c : OctetCursor) : outcome bit c =
    c.data[c.bytePos]?.elim (.error .truncated, c) fun b =>
      (.ok (b.toNat.testBit (7 - c.bitPos)), c.advance) := by
  rw [bit, outcome_bind, outcome_get]
  dsimp only
  cases c.data[c.bytePos]? <;> rfl

lemma mirrors_bit : Mirrors bit BitCursor.bit := by
  intro c
  have hadvance : (ofBits c).advance = ofBits (c.advance 1) := advance_atBit _ _
  rw [outcome_bit, BitCursor.outcome_bit_of_byte, hadvance]
  show c.data[c.position / 8]?.elim _ _ = _
  cases c.data[c.position / 8]? <;> rfl

/-- Bit after bit. -/
lemma mirrors_number (n value : Nat) :
    Mirrors (Read.field bit n value) (Read.field BitCursor.bit n value) := by
  induction n generalizing value with
  | zero => exact .pure _
  | succ n ih => exact mirrors_bit.bind fun b => ih _

lemma mirrors_field (n : Nat) : Mirrors (field n) (BitCursor.field n) := by
  intro c
  unfold field BitCursor.field
  by_cases hwide : maxFieldWidth < n
  · rw [if_pos hwide, if_pos hwide]
    rfl
  rw [if_neg hwide, if_neg hwide]
  show outcome (get >>= _) _ = ((outcome (get >>= _) _).1, _)
  rw [outcome_bind, outcome_get, outcome_bind, outcome_get]
  dsimp only
  rw [remaining_ofBits]
  split
  · rfl
  · exact mirrors_number n 0 c

lemma mirrors_skip (n : Nat) : Mirrors (skip n) (BitCursor.skip n) := by
  intro c
  rw [skip, BitCursor.skip, outcome_bind, outcome_get, outcome_bind, outcome_get]
  dsimp only
  rw [remaining_ofBits]
  split
  · rfl
  · show ((_, ⟨c.data, ((ofBits c).position + n) / 8, ((ofBits c).position + n) % 8⟩) :
      _ × OctetCursor) = _
    rw [ofBits, position_atBit]
    rfl

lemma mirrors_leadingZeros (budget : Nat) :
    Mirrors (leadingZeros budget) (leadingZeros budget) := by
  induction budget with
  | zero => exact .throw _
  | succ budget ih => exact mirrors_bit.bind fun b => .ite (.pure _) (ih.bind fun _ => .pure _)

lemma mirrors_readUe : Mirrors readUe readUe :=
  (mirrors_leadingZeros _).bind fun zeros => (mirrors_field zeros).bind fun _ => .pure _

/-- **Every read does the same on both cursors** and takes them to the same place. -/
lemma mirrors_perform (op : BitOp) : Mirrors op.perform op.perform := by
  cases op with
  | bit => exact mirrors_bit.map _
  | bits n => exact (mirrors_field n).map _
  | ue => exact mirrors_readUe.map _
  | se => exact (mirrors_readUe.bind fun _ => .pure _).map _
  | u8 => exact (mirrors_field 8).map _
  | u16 => exact (mirrors_field 16).map _
  | u32 => exact (mirrors_field 32).map _
  | skip n => exact (mirrors_skip n).map _

/-- So do reads one after another. -/
lemma performAll_ofBits (ops : List BitOp) (c : BitCursor) :
    performAll ops (ofBits c) = ((performAll ops c).1, ofBits (performAll ops c).2) := by
  induction ops generalizing c with
  | nil => rfl
  | cons op ops ih =>
    rw [performAll, performAll, mirrors_perform op c]
    dsimp only
    rw [ih]

/-! ## Reads at a place -/

variable {c : BitCursor} {n : Nat}

lemma outcome_bit_ofBits (c : BitCursor) : outcome readBit (ofBits c) =
    c.left.head?.elim (.error .truncated, ofBits c) fun b => (.ok b, ofBits (c.advance 1)) := by
  have hmirror := mirrors_bit c
  rw [BitCursor.outcome_bit] at hmirror
  refine hmirror.trans ?_
  cases c.left.head? <;> rfl

lemma outcome_readBits_ofBits (c : BitCursor) (n : Nat) : outcome (readBits n) (ofBits c) =
    if n ≤ maxFieldWidth ∧ n ≤ c.remaining then
      (.ok (toNat (c.left.take n)), ofBits (c.advance n))
    else
      (.error (if maxFieldWidth < n then .invalid .wideRead else .truncated), ofBits c) := by
  refine (mirrors_field n c).trans ?_
  show ((outcome (readBits n) c).1, ofBits (outcome (readBits n) c).2) = _
  rw [BitCursor.outcome_readBits]
  split <;> rfl

lemma outcome_skipBits_ofBits (c : BitCursor) (n : Nat) : outcome (skipBits n) (ofBits c) =
    if n ≤ c.remaining then (.ok (), ofBits (c.advance n)) else (.error .truncated, ofBits c) := by
  refine (mirrors_skip n c).trans ?_
  show ((outcome (skipBits n) c).1, ofBits (outcome (skipBits n) c).2) = _
  rw [BitCursor.outcome_skipBits]
  split <;> rfl

/-- As many bits as remain can be read one by one. -/
lemma performAll_bits_ofBits (h : n ≤ c.remaining) :
    performAll (List.replicate n .bit) (ofBits c) =
      ((c.left.take n).map fun b => .ok (.bit b), ofBits (c.advance n)) := by
  obtain ⟨hlen, hleft⟩ := c.left_eq_take_append h
  have hbits := BitCursor.performAll_bits_of_left hleft
  rw [hlen] at hbits
  rw [performAll_ofBits, hbits]

/-! ## After any reads -/

/-- **A cursor stands at a bit of its data or at their end, whatever has been read from it.** After
any reads, failures included, the bytes and the bits that it counts are those of a position inside
the data, and the rest in bits and in whole bytes is what lies behind this position. A field of up
to 32 bits and a skip succeed just if enough bits remain: then the field is the number of the next
bits, most significant first, and both move behind them; else both leave the cursor as it is. If
they succeed, as many single bits can be read instead, which spell the field and lead to the same
place. All results are those of a cursor that counts bits only, which comes to the same position.

**Proof sketch.** The cursor that counts bits never leaves the data
(`BitCursor.preserves_perform`), and its fields and skips take the bits behind its position
(`BitCursor.outcome_readBits`, `BitCursor.outcome_skipBits`). The other one does the same at every
read (`mirrors_perform`): only here the two counts matter, where a bit carries into the next byte,
and where a skip works out both of them anew. -/
theorem reads_in_place (data : Bytes) (ops : List BitOp) :
    let c := (performAll ops ({ data } : OctetCursor)).2
    let p := c.position
    c = atBit data p ∧ p ≤ data.length * 8 ∧
    c.remaining = data.length * 8 - p ∧
    c.remainingBytes = data.drop ((p + 7) / 8) ∧
    outcome readBit c = (ofBytes data)[p]?.elim (.error .truncated, c)
      (fun b => (.ok b, atBit data (p + 1))) ∧
    (∀ n, outcome (readBits n) c =
      if n ≤ 32 ∧ n ≤ data.length * 8 - p then
        (.ok (toNat (((ofBytes data).drop p).take n)), atBit data (p + n))
      else
        (.error (if 32 < n then .invalid .wideRead else .truncated), c)) ∧
    (∀ n, outcome (skipBits n) c =
      if n ≤ data.length * 8 - p then (.ok (), atBit data (p + n)) else (.error .truncated, c)) ∧
    (∀ n v c', outcome (readBits n) c = (.ok v, c') → ∃ bits : List Bool,
      bits.length = n ∧ toNat bits = v ∧
        performAll (List.replicate n .bit) c = (bits.map fun b => .ok (.bit b), c')) ∧
    (∀ n c', outcome (skipBits n) c = (.ok (), c') → ∃ bits : List Bool,
      bits.length = n ∧
        performAll (List.replicate n .bit) c = (bits.map fun b => .ok (.bit b), c')) ∧
    (performAll ops ({ data } : OctetCursor)).1 = (performAll ops ({ data } : BitCursor)).1 ∧
    (performAll ops ({ data } : BitCursor)).2.position = p := by
  have hrun := performAll_ofBits ops { data }
  have hwithin : BitCursor.Within data (performAll ops ({ data } : BitCursor)).2 :=
    performAll_keeps BitCursor.preserves_perform ops ⟨rfl, Nat.zero_le _⟩
  rw [ofBits_new] at hrun
  rw [hrun]
  generalize (performAll ops ({ data } : BitCursor)).2 = c at hwithin ⊢
  obtain ⟨data', p⟩ := c
  obtain ⟨hdata, hle⟩ := hwithin
  obtain rfl : data = data' := hdata.symm
  intro c' p'
  have hp : p' = p := position_atBit data p
  rw [hp]
  refine ⟨rfl, hle, remaining_atBit data p, remainingBytes_atBit data p, ?_,
    fun n => outcome_readBits_ofBits _ n, fun n => outcome_skipBits_ofBits _ n, ?_, ?_, rfl, rfl⟩
  · have hbit := outcome_bit_ofBits { data, position := p }
    rwa [BitCursor.left, List.head?_drop] at hbit
  · intro n v c'' h
    rw [outcome_readBits_ofBits] at h
    split at h
    · rename_i hn
      cases h
      exact ⟨_, (BitCursor.left_eq_take_append _ hn.2).1, rfl, performAll_bits_ofBits hn.2⟩
    · cases h
  · intro n c'' h
    rw [outcome_skipBits_ofBits] at h
    split at h
    · rename_i hn
      cases h
      exact ⟨_, (BitCursor.left_eq_take_append _ hn).1, performAll_bits_ofBits hn⟩
    · cases h

/-- Three bytes, after a skip, a field that is too wide, one and a skip that are too long, and a
field that ends with the first byte; the last field ends with the data. -/
theorem reads_in_place_after_failures :
    let data : Bytes := [0x12, 0x34, 0x56]
    let c := (performAll [.skip 3, .bits 33, .u32, .bits 5, .skip 17] ({ data } : OctetCursor)).2
    outcome (readBits 16) c = (.ok 0x3456, atBit data 24) ∧
      outcome (skipBits 16) c = (.ok (), atBit data 24) ∧
      ∃ bits : List Bool, bits.length = 16 ∧ toNat bits = 0x3456 ∧
        performAll (List.replicate 16 .bit) c = (bits.map fun b => .ok (.bit b), atBit data 24) := by
  intro data c
  have hfield : outcome (readBits 16) c = (.ok 0x3456, atBit data 24) := by decide
  have hskip : outcome (skipBits 16) c = (.ok (), atBit data 24) := by decide
  obtain ⟨-, -, -, -, -, -, -, hbits, -⟩ :=
    reads_in_place data [.skip 3, .bits 33, .u32, .bits 5, .skip 17]
  exact ⟨hfield, hskip, hbits 16 0x3456 (atBit data 24) hfield⟩

end OctetCursor

end LiveMedia.Bits
