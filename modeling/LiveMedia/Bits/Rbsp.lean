import LiveMedia.Bits.Source
import LiveMedia.Nal.Emulation

set_option autoImplicit false

/-!
# A cursor over an escaped NAL unit

`RbspCursor` reads the raw byte sequence payload of a NAL unit: the emulation-prevention bytes
are dropped as the cursor crosses them. It never looks ahead further than one byte, so every
read goes bit by bit and a read that fails has consumed the bits before the end.

## Main definitions

* `LiveMedia.Bits.RbspCursor` — what is left of an escaped NAL unit.
-/

namespace LiveMedia.Bits

/-- What is left of an escaped NAL unit. -/
structure RbspCursor where
  /-- The bytes not read in full, still escaped. -/
  rest : Bytes
  /-- How many bits of the first byte have been read. -/
  bitPos : Nat := 0
  /-- How many zero bytes have just been read. -/
  zeros : Nat := 0
  /-- How many emulation-prevention bytes have been dropped. -/
  skipped : Nat := 0
  deriving DecidableEq, Repr

namespace RbspCursor

/-- Every byte has been read. -/
def isExhausted (c : RbspCursor) : Bool :=
  c.rest.isEmpty

/-- Drops an emulation-prevention byte at a byte boundary. -/
def dropEscape (c : RbspCursor) : RbspCursor :=
  match c.rest with
  | b :: tail =>
    if c.bitPos = 0 ∧ Nal.isEscape c.zeros b tail then
      { c with rest := tail, zeros := 0, skipped := c.skipped + 1 }
    else
      c
  | [] => c

/-- The cursor behind the next bit of its first byte `b`. -/
def advance (c : RbspCursor) (b : UInt8) (tail : Bytes) : RbspCursor :=
  if c.bitPos + 1 = 8 then
    { c with rest := tail, bitPos := 0, zeros := Nal.zeroRunAfter c.zeros b }
  else
    { c with bitPos := c.bitPos + 1 }

/-- The next bit. -/
def bit : Read RbspCursor Bool := do
  modify dropEscape
  let c ← get
  match c.rest with
  | [] => throw .truncated
  | b :: tail =>
    set (c.advance b tail)
    pure (b.toNat.testBit (7 - c.bitPos))

/-- The next `n` bits as a number. -/
def field (n : Nat) : Read RbspCursor Nat := do
  if maxFieldWidth < n then
    throw (.invalid .wideRead)
  Read.field bit n 0

instance : BitSource RbspCursor where
  readBit := bit
  readBits := field
  skipBits := Read.skip bit

end RbspCursor

end LiveMedia.Bits
