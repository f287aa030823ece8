import LiveMedia.Proofs.Bits.Rbsp

set_option autoImplicit false

/-!
# Reading on machine words

The numbers of a program are held in words of the machine. A build for development stops at a
result that its word does not hold, and a release goes on with what the word holds instead. The
reads of single bits, of fields and of Exp-Golomb values are written here with every operation on
its word. No result leaves its word, so that in both builds they are the reads on numbers.

## Main definitions

* `LiveMedia.Bits.Word`, `LiveMedia.Bits.Build` — the integer types and the two builds.
* `LiveMedia.Bits.bitOn`, `LiveMedia.Bits.readBitsOn`, `LiveMedia.Bits.readUeOn`,
  `LiveMedia.Bits.readSeOn` — the reads from an escaped NAL unit, on words.
* `LiveMedia.Bits.OnWords` — a cursor as it is held in words.
* `LiveMedia.Bits.Build.Raises` — the errors of a build: only one for development overflows.

## Main results

* `LiveMedia.Bits.tracks_readBitsOn`, `LiveMedia.Bits.tracks_readUeOn`,
  `LiveMedia.Bits.tracks_readSeOn` — on words the same is read.
-/

namespace LiveMedia.Bits

/-! ## Words -/

/-- An integer type of the machine. -/
inductive Word where
  | u8
  | u32
  | u64
  | i32
  | i64
  deriving DecidableEq, Repr

namespace Word

/-- The least number that a word of this type holds. -/
def least : Word → Int
  | u8 | u32 | u64 => 0
  | i32 => -0x80000000
  | i64 => -0x8000000000000000

/-- How many numbers a word of this type can hold. -/
def count : Word → Int
  | u8 => 0x100
  | u32 | i32 => 0x100000000
  | u64 | i64 => 0x10000000000000000

/-- A word of this type holds the number. -/
def Holds (w : Word) (k : Int) : Prop :=
  w.least ≤ k ∧ k < w.least + w.count

instance (w : Word) (k : Int) : Decidable (w.Holds k) :=
  inferInstanceAs (Decidable (_ ∧ _))

/-- What a word of this type holds in place of a number: the bits that fit. -/
def wrap (w : Word) (k : Int) : Int :=
  (k - w.least) % w.count + w.least

variable {k : Int}

lemma holds_u8 : u8.Holds k ↔ 0 ≤ k ∧ k < 0x100 := by
  simp only [Holds, least, count, Int.zero_add]

lemma holds_u32 : u32.Holds k ↔ 0 ≤ k ∧ k < 0x100000000 := by
  simp only [Holds, least, count, Int.zero_add]

lemma holds_u64 : u64.Holds k ↔ 0 ≤ k ∧ k < 0x10000000000000000 := by
  simp only [Holds, least, count, Int.zero_add]

lemma holds_i32 : i32.Holds k ↔ -0x80000000 ≤ k ∧ k < 0x80000000 := by
  simp only [Holds, least, count]
  omega

lemma holds_i64 : i64.Holds k ↔ -0x8000000000000000 ≤ k ∧ k < 0x8000000000000000 := by
  simp only [Holds, least, count]
  omega

/-- A number that fits is held as it is. -/
lemma wrap_of_holds {w : Word} (h : w.Holds k) : w.wrap k = k := by
  obtain ⟨hlow, hhigh⟩ := h
  rw [wrap, Int.emod_eq_of_lt (by omega) (by omega)]
  omega

end Word

/-- How the program is built. -/
inductive Build where
  /-- A result that does not fit stops the program. -/
  | dev
  /-- A result that does not fit loses its high bits. -/
  | release
  deriving DecidableEq, Repr

namespace Build

/-- The word that an operation with the exact result `k` leaves. -/
def result (build : Build) (w : Word) (k : Int) : Except MediaError Int :=
  if w.Holds k then
    .ok k
  else
    match build with
    | dev => .error .overflow
    | release => .ok (w.wrap k)

/-- The same for an unsigned word, as a natural number. -/
def natural (build : Build) (w : Word) (k : Int) : Except MediaError Nat :=
  (build.result w k).map Int.toNat

variable {build : Build} {w : Word}

lemma result_of_holds {k : Int} (h : w.Holds k) : build.result w k = .ok k :=
  if_pos h

lemma natural_of_holds {n : Nat} (h : w.Holds n) : build.natural w n = .ok n := by
  rw [natural, result_of_holds h]
  rfl

end Build

/-! ## Reads on words -/

section

variable (build : Build)

/-- The next bit. Its place in the byte is held in eight bits, as is the run of zeros, which stops
at the largest number there. -/
def bitOn : Read RbspCursor Bool := do
  modify RbspCursor.dropEscape
  let c ← get
  match c.rest with
  | [] => throw .truncated
  | b :: tail =>
    let place ← (build.natural .u8 (7 - c.bitPos) : Except MediaError Nat)
    let next ← (build.natural .u8 (c.bitPos + 1) : Except MediaError Nat)
    if next = 8 then
      set { c with rest := tail, bitPos := 0, zeros := min (Nal.zeroRunAfter c.zeros b) 0xFF }
    else
      set { c with bitPos := next }
    pure (b.toNat.testBit place)

/-- Drops the next bit. -/
def skipBitOn : Read RbspCursor Unit := do
  let _ ← bitOn build

/-- The next `n` bits behind `value`. The bits that are shifted out of the 32 are lost in either
build, and the new one goes where the shift has left a zero. -/
def fieldOn : (n value : Nat) → Read RbspCursor Nat
  | 0, value => pure value
  | n + 1, value => do
    let b ← bitOn build
    fieldOn n (2 * value % 0x100000000 + b.toNat)

/-- The next `n` bits as a number. -/
def readBitsOn (n : Nat) : Read RbspCursor Nat :=
  if maxFieldWidth < n then throw (.invalid .wideRead) else fieldOn build n 0

/-- The next byte. -/
def readByteOn : Read RbspCursor Nat :=
  (· % 0x100) <$> readBitsOn build 8

/-- Counts the zeros up to the first one in eight bits, behind `zeros` of them. -/
def leadingZerosOn : (budget zeros : Nat) → Read RbspCursor Nat
  | 0, _ => throw (.invalid .expGolombOverflow)
  | budget + 1, zeros => do
    if ← bitOn build then
      pure zeros
    else
      let zeros ← (build.natural .u8 (zeros + 1) : Except MediaError Nat)
      if 31 < zeros then
        throw (.invalid .expGolombOverflow)
      else
        leadingZerosOn budget zeros

/-- An unsigned Exp-Golomb value, put together in 64 bits and cut to 32. -/
def readUeOn : Read RbspCursor Nat := do
  let zeros ← leadingZerosOn build maxFieldWidth 0
  if zeros = 0 then
    pure 0
  else
    let suffix ← readBitsOn build zeros
    let power := (1 <<< zeros) % 0x10000000000000000
    let ones ← (build.natural .u64 (power - 1) : Except MediaError Nat)
    let sum ← (build.natural .u64 (ones + suffix) : Except MediaError Nat)
    pure (sum % 0x100000000)

/-- A signed Exp-Golomb value, put together in 64 bits and cut to 32. -/
def readSeOn : Read RbspCursor Int := do
  let code ← readUeOn build
  let next ← (build.result .i64 (code + 1) : Except MediaError Int)
  let magnitude := next.tdiv 2
  if code % 2 = 0 then
    let negated ← (build.result .i64 (-magnitude) : Except MediaError Int)
    pure (Word.i32.wrap negated)
  else
    pure (Word.i32.wrap magnitude)

end

/-! ## A cursor in words -/

/-- A cursor as it is held in words: of the zeros as many as eight bits can count. -/
def RbspCursor.held (c : RbspCursor) : RbspCursor :=
  { c with zeros := min c.zeros 0xFF }

/-- The second cursor is the first one as it is held in words, inside a byte. -/
def OnWords (c d : RbspCursor) : Prop :=
  c.bitPos < 8 ∧ d = c.held

namespace RbspCursor

/-- Whether a byte is an escape does not depend on zeros beyond the second one. -/
lemma dropEscape_held (c : RbspCursor) : c.held.dropEscape = c.dropEscape.held := by
  obtain ⟨_ | ⟨b, tail⟩, bitPos, zeros, skipped⟩ := c
  · rfl
  · have hesc : Nal.isEscape (min zeros 0xFF) b tail = Nal.isEscape zeros b tail := by
      have hzeros : (2 ≤ min zeros 0xFF) ↔ 2 ≤ zeros := by omega
      simp only [Nal.isEscape, hzeros]
    simp only [held, dropEscape, hesc]
    split <;> rfl

/-- A counter that has stopped at its largest number stays there. -/
lemma min_zeroRunAfter (zeros : Nat) (b : UInt8) :
    min (Nal.zeroRunAfter (min zeros 0xFF) b) 0xFF = min (Nal.zeroRunAfter zeros b) 0xFF := by
  unfold Nal.zeroRunAfter
  split
  · omega
  · rfl

end RbspCursor

/-! ## What can be read -/

section

lemma returns_leadingZeros {σ : Type} [BitSource σ] (budget : Nat) :
    Returns (· < budget) (leadingZeros budget : Read σ Nat) := by
  induction budget with
  | zero => exact .throw _
  | succ budget ih =>
    exact .bind fun b => .ite (.pure (Nat.succ_pos _)) (ih.bind_of fun k hk => .pure (by omega))

lemma returns_field {σ : Type} (bit : Read σ Bool) (n value : Nat) :
    Returns (· < 2 ^ n * (value + 1)) (Read.field bit n value) := by
  induction n generalizing value with
  | zero => exact .pure (by omega)
  | succ n ih =>
    refine .bind fun b s v hv => Nat.lt_of_lt_of_le (ih _ s v hv) ?_
    rw [Nat.pow_succ, Nat.mul_assoc]
    have := Bool.toNat_le b
    exact Nat.mul_le_mul_left _ (by omega)

lemma returns_readBits (n : Nat) : Returns (· < 2 ^ n) (readBits n : Read RbspCursor Nat) := by
  show Returns _ (RbspCursor.field n)
  unfold RbspCursor.field
  refine .ite (.throw _) ?_
  simpa using returns_field RbspCursor.bit n 0

lemma returns_readUe : Returns (· ≤ maxUe) (readUe : Read RbspCursor Nat) := by
  refine (returns_leadingZeros _).bind_of fun zeros hzeros =>
    (returns_readBits zeros).bind_of fun suffix hsuffix => .pure ?_
  have hpow : 2 ^ zeros ≤ 2 ^ 31 := Nat.pow_le_pow_right (by decide) (Nat.le_of_lt_succ hzeros)
  rw [Nat.one_shiftLeft]
  unfold maxUe
  omega

/-- Half of the code numbers are those of positive values. -/
lemma returns_readSe : Returns (fun k => -0x7FFFFFFF ≤ k ∧ k ≤ 0x7FFFFFFF)
    (readSe : Read RbspCursor Int) := by
  refine returns_readUe.bind_of fun code hcode => .pure ?_
  unfold maxUe at hcode
  unfold signedValue
  split <;> omega

end

/-! ## The reads on words are those on numbers -/

section

variable {build : Build} {aside : MediaError → Prop}

/-- A natural number that its word holds is passed on. -/
lemma natural_bind {σ β : Type} {w : Word} {n : Nat} {k : Int} (hk : k = n) (h : w.Holds n)
    (f : Nat → Read σ β) : ((liftM (build.natural w k) : Read σ Nat) >>= f) = f n := by
  rw [hk, Build.natural_of_holds h]
  rfl

/-- A number that its word holds is passed on. -/
lemma result_bind {σ β : Type} {w : Word} {k : Int} (h : w.Holds k) (f : Int → Read σ β) :
    ((liftM (build.result w k) : Read σ Int) >>= f) = f k := by
  rw [Build.result_of_holds h]
  rfl

/-- The next bit is read from a cursor in words as from the cursor itself. -/
lemma outcome_bitOn {c : RbspCursor} (hpos : c.bitPos < 8) : outcome (bitOn build) c.held =
    match c.dropEscape.rest with
    | [] => (.error .truncated, c.dropEscape.held)
    | b :: tail =>
      (.ok (b.toNat.testBit (7 - c.bitPos)), (c.dropEscape.advance b tail).held) := by
  show outcome (modify RbspCursor.dropEscape >>= _) c.held = _
  rw [outcome_bind]
  show outcome (get >>= _) c.held.dropEscape = _
  rw [outcome_bind, outcome_get, RbspCursor.dropEscape_held]
  dsimp only [RbspCursor.held, RbspCursor.advance]
  cases c.dropEscape.rest with
  | nil => rfl
  | cons b tail =>
    dsimp only
    rw [RbspCursor.bitPos_dropEscape,
      natural_bind (n := 7 - c.bitPos) (by omega) (Word.holds_u8.2 (by omega)),
      natural_bind (n := c.bitPos + 1) (by omega) (Word.holds_u8.2 (by omega)),
      RbspCursor.min_zeroRunAfter]
    split <;> rfl

lemma tracks_bitOn : Tracks aside OnWords RbspCursor.bit (bitOn build) := by
  rintro c _ ⟨hpos, rfl⟩
  rw [RbspCursor.outcome_bit, outcome_bitOn hpos]
  cases hrest : c.dropEscape.rest with
  | nil => exact Or.inr ⟨rfl, fun _ h => by cases h⟩
  | cons b tail => exact Or.inr ⟨rfl, fun _ _ => ⟨(RbspCursor.left_advance hpos hrest).2, rfl⟩⟩

lemma tracks_skipBitOn :
    Tracks aside OnWords (skipBits 1 : Read RbspCursor Unit) (skipBitOn build) :=
  tracks_bitOn.bind fun _ => .pure _

/-- A field that fits in 32 bits loses nothing when it is shifted in. -/
lemma tracks_fieldOn {n w value : Nat} (hwidth : w + n ≤ 32) (hvalue : value < 2 ^ w) :
    Tracks aside OnWords (Read.field RbspCursor.bit n value) (fieldOn build n value) := by
  induction n generalizing w value with
  | zero => exact .pure _
  | succ n ih =>
    refine tracks_bitOn.bind fun b => ?_
    have hb : b.toNat < 2 := Bool.toNat_lt b
    have hpow : 2 ^ (w + 1) ≤ 2 ^ 32 := Nat.pow_le_pow_right (by decide) (by omega)
    rw [Nat.pow_succ] at hpow
    rw [Nat.mod_eq_of_lt (show 2 * value < 0x100000000 by omega)]
    exact ih (w := w + 1) (by omega) (by rw [Nat.pow_succ]; omega)

lemma tracks_readBitsOn (n : Nat) :
    Tracks aside OnWords (readBits n : Read RbspCursor Nat) (readBitsOn build n) := by
  show Tracks aside OnWords (RbspCursor.field n) _
  unfold RbspCursor.field readBitsOn
  rcases Nat.lt_or_ge maxFieldWidth n with hwide | hn
  · rw [if_pos hwide, if_pos hwide]
    exact .throw _
  · rw [if_neg (Nat.not_lt.2 hn), if_neg (Nat.not_lt.2 hn)]
    exact tracks_fieldOn (w := 0) (by simpa [maxFieldWidth] using hn) (Nat.one_pos)

lemma tracks_readByteOn :
    Tracks aside OnWords (readBits 8 : Read RbspCursor Nat) (readByteOn build) := by
  rw [← id_map (readBits 8 : Read RbspCursor Nat), ← bind_pure_comp, readByteOn, ← bind_pure_comp]
  refine (tracks_readBitsOn 8).bind_of_post (returns_readBits 8) fun byte hbyte => ?_
  rw [Nat.mod_eq_of_lt (show byte < 0x100 from hbyte)]
  exact .pure _

/-- The zeros up to the first one are counted on words behind those counted already. -/
lemma tracks_leadingZerosOn (budget zeros : Nat) (h : zeros + budget = 32) :
    Tracks aside OnWords ((zeros + ·) <$> (leadingZeros budget : Read RbspCursor Nat))
      (leadingZerosOn build budget zeros) := by
  induction budget generalizing zeros with
  | zero => exact .throw _
  | succ budget ih =>
    rw [leadingZeros, leadingZerosOn, map_bind]
    refine tracks_bitOn.bind fun b => ?_
    cases b with
    | true => exact .pure _
    | false =>
      rw [if_neg Bool.false_ne_true, if_neg Bool.false_ne_true,
        natural_bind (n := zeros + 1) (by omega) (Word.holds_u8.2 (by omega))]
      split
      · -- the zeros stop where the model has no budget left
        next hmany =>
        obtain rfl : budget = 0 := by omega
        exact .throw _
      · have hbehind := ih (zeros + 1) (by omega)
        simpa [Nat.add_assoc, Nat.add_comm, Nat.add_left_comm] using hbehind

lemma tracks_readUeOn : Tracks aside OnWords (readUe : Read RbspCursor Nat) (readUeOn build) := by
  have hcount : Tracks aside OnWords (leadingZeros maxFieldWidth)
      (leadingZerosOn build maxFieldWidth 0) := by
    simpa using tracks_leadingZerosOn maxFieldWidth 0 rfl
  refine hcount.bind_of_post (returns_leadingZeros _) fun zeros hzeros => ?_
  split
  · next hnone =>
    subst hnone
    exact .pure 0
  · refine (tracks_readBitsOn zeros).bind_of_post (returns_readBits zeros) fun suffix hsuffix => ?_
    have hpow : 2 ^ zeros ≤ 2 ^ 31 := Nat.pow_le_pow_right (by decide) (Nat.le_of_lt_succ hzeros)
    have hpos := Nat.two_pow_pos zeros
    rw [Nat.one_shiftLeft, Nat.mod_eq_of_lt (by omega : 2 ^ zeros < 0x10000000000000000),
      natural_bind (n := 2 ^ zeros - 1) (by omega) (Word.holds_u64.2 (by omega)),
      natural_bind (n := 2 ^ zeros - 1 + suffix) (by omega) (Word.holds_u64.2 (by omega)),
      Nat.mod_eq_of_lt (by omega)]
    exact .pure _

lemma tracks_readSeOn : Tracks aside OnWords (readSe : Read RbspCursor Int) (readSeOn build) := by
  refine tracks_readUeOn.bind_of_post returns_readUe fun code hcode => ?_
  unfold maxUe at hcode
  have hhalf : ((code : Int) + 1).tdiv 2 = ((code + 1) / 2 : Nat) := by
    rw [Int.tdiv_eq_ediv_of_nonneg (by omega)]
    omega
  rw [result_bind (Word.holds_i64.2 (by omega)), hhalf]
  dsimp only
  unfold signedValue
  split
  · rw [result_bind (Word.holds_i64.2 (by omega)), Word.wrap_of_holds (Word.holds_i32.2 (by omega))]
    exact .pure _
  · rw [Word.wrap_of_holds (Word.holds_i32.2 (by omega))]
    exact .pure _

end

/-! ## A release does not stop -/

section

variable {build : Build}

/-- Only a build for development stops at a result that does not fit. -/
def Build.Raises (build : Build) (e : MediaError) : Prop :=
  e = .overflow → build = .dev

lemma raises_of_result {w : Word} {k : Int} {e : MediaError} (h : build.result w k = .error e) :
    build.Raises e := by
  unfold Build.result at h
  split at h
  · cases h
  · cases build with
    | dev => exact fun _ => rfl
    | release => cases h

lemma raises_of_natural {w : Word} {k : Int} {e : MediaError} (h : build.natural w k = .error e) :
    build.Raises e := by
  unfold Build.natural at h
  cases hk : build.result w k <;> rw [hk] at h <;> cases h
  exact raises_of_result hk

lemma failsOnly_bitOn : FailsOnly build.Raises (bitOn build) := by
  refine .bind (.of_succeeds fun _ => ⟨_, rfl⟩) fun _ => .bind (.of_succeeds fun _ => ⟨_, rfl⟩)
    fun c => ?_
  cases c.rest with
  | nil => exact .throw (by rintro ⟨⟩)
  | cons b tail =>
    refine .bind (.liftM fun _ => raises_of_natural) fun place =>
      .bind (.liftM fun _ => raises_of_natural) fun next => .ite ?_ ?_ <;>
        exact .of_succeeds fun _ => ⟨_, rfl⟩

lemma failsOnly_skipBitOn : FailsOnly build.Raises (skipBitOn build) :=
  failsOnly_bitOn.bind fun _ => .pure _

lemma failsOnly_fieldOn (n value : Nat) : FailsOnly build.Raises (fieldOn build n value) := by
  induction n generalizing value with
  | zero => exact .pure _
  | succ n ih => exact failsOnly_bitOn.bind fun _ => ih _

lemma failsOnly_readBitsOn (n : Nat) : FailsOnly build.Raises (readBitsOn build n) :=
  .ite (.throw (by rintro ⟨⟩)) (failsOnly_fieldOn _ _)

lemma failsOnly_readByteOn : FailsOnly build.Raises (readByteOn build) :=
  (failsOnly_readBitsOn 8).map _

lemma failsOnly_leadingZerosOn (budget zeros : Nat) :
    FailsOnly build.Raises (leadingZerosOn build budget zeros) := by
  induction budget generalizing zeros with
  | zero => exact .throw (by rintro ⟨⟩)
  | succ budget ih =>
    exact failsOnly_bitOn.bind fun _ => .ite (.pure _)
      (.bind (.liftM fun _ => raises_of_natural) fun _ => .ite (.throw (by rintro ⟨⟩)) (ih _))

lemma failsOnly_readUeOn : FailsOnly build.Raises (readUeOn build) :=
  (failsOnly_leadingZerosOn _ _).bind fun zeros => .ite (.pure _)
    ((failsOnly_readBitsOn zeros).bind fun _ => .bind (.liftM fun _ => raises_of_natural) fun _ =>
      .bind (.liftM fun _ => raises_of_natural) fun _ => .pure _)

lemma failsOnly_readSeOn : FailsOnly build.Raises (readSeOn build) :=
  failsOnly_readUeOn.bind fun _ => .bind (.liftM fun _ => raises_of_result) fun _ =>
    .ite (.bind (.liftM fun _ => raises_of_result) fun _ => .pure _) (.pure _)

end

end LiveMedia.Bits
