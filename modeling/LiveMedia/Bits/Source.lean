import LiveMedia.Bits.Packing
import LiveMedia.Error

set_option autoImplicit false

/-!
# Reading bit fields

A bit source is a state from which bits can be read. Reads that fail leave the source in a
state of its own, so a caller may go on reading after a failure.

## Main definitions

* `LiveMedia.Bits.Read` — a computation that reads from a source and may fail.
* `LiveMedia.Bits.BitSource` — single bits, fields of up to 32 bits, and skips.
* `LiveMedia.Bits.readUe`, `LiveMedia.Bits.readSe` — Exp-Golomb values, built on the fields.
-/

namespace LiveMedia.Bits

/-- A computation that reads from the source `σ`. A failure keeps the state reached. -/
abbrev Read (σ α : Type) := ExceptT MediaError (StateM σ) α

/-- The widest field that one read returns. -/
def maxFieldWidth : Nat := 32

/-- The value of the next `n` bits put behind `value`, one bit at a time. -/
def Read.field {σ : Type} (bit : Read σ Bool) : (n value : Nat) → Read σ Nat
  | 0, value => pure value
  | n + 1, value => do
    let b ← bit
    Read.field bit n (2 * value + b.toNat)

/-- Drops `n` bits, one at a time. -/
def Read.skip {σ : Type} (bit : Read σ Bool) : (n : Nat) → Read σ Unit
  | 0 => pure ()
  | n + 1 => do
    let _ ← bit
    Read.skip bit n

/-- A state from which bits can be read. -/
class BitSource (σ : Type) where
  /-- The next bit. -/
  readBit : Read σ Bool
  /-- The next `n` bits as an unsigned number; more than 32 at once are refused. -/
  readBits (n : Nat) : Read σ Nat
  /-- Drops `n` bits. -/
  skipBits (n : Nat) : Read σ Unit

export BitSource (readBit readBits skipBits)

section

variable {σ : Type} [BitSource σ]

/-- Reads zeros up to the first one and counts them; the `budget`-th zero is refused. -/
def leadingZeros : (budget : Nat) → Read σ Nat
  | 0 => throw (.invalid .expGolombOverflow)
  | budget + 1 => do
    if ← readBit then
      pure 0
    else
      let zeros ← leadingZeros budget
      pure (zeros + 1)

/-- An unsigned Exp-Golomb value, ue(v), below `2 ^ 32 - 1`. -/
def readUe : Read σ Nat := do
  let zeros ← leadingZeros maxFieldWidth
  let suffix ← readBits zeros
  pure ((1 <<< zeros) - 1 + suffix)

/-- A signed Exp-Golomb value, se(v). -/
def readSe : Read σ Int := do
  let code ← readUe
  pure (signedValue code)

end

end LiveMedia.Bits
