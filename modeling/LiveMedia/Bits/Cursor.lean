import LiveMedia.Bits.Source

set_option autoImplicit false

/-!
# A cursor over plain bytes

`BitCursor` reads the bits of a byte string from front to back. A field or a skip that asks
for more bits than remain fails before it moves, so a short read leaves the cursor where it was.

## Main definitions

* `LiveMedia.Bits.BitCursor` — a byte string and a position in its bits.
-/

namespace LiveMedia.Bits

/-- A byte string and the number of its bits that have been read. -/
structure BitCursor where
  data : Bytes
  /-- The position in bits. -/
  position : Nat := 0
  deriving DecidableEq, Repr

namespace BitCursor

/-- The number of bits left to read. -/
def remaining (c : BitCursor) : Nat :=
  c.data.length * 8 - c.position

/-- The position is a byte boundary. -/
def isAligned (c : BitCursor) : Bool :=
  c.position % 8 == 0

/-- The bytes from the next byte boundary on. -/
def remainingBytes (c : BitCursor) : Bytes :=
  c.data.drop ((c.position + 7) / 8)

/-- The next bit. -/
def bit : Read BitCursor Bool := do
  let c ← get
  match c.data[c.position / 8]? with
  | none => throw .truncated
  | some b =>
    set { c with position := c.position + 1 }
    pure (b.toNat.testBit (7 - c.position % 8))

/-- The next `n` bits as a number. -/
def field (n : Nat) : Read BitCursor Nat := do
  if maxFieldWidth < n then
    throw (.invalid .wideRead)
  if (← get).remaining < n then
    throw .truncated
  Read.field bit n 0

/-- Moves `n` bits on. -/
def skip (n : Nat) : Read BitCursor Unit := do
  let c ← get
  if c.remaining < n then
    throw .truncated
  set { c with position := c.position + n }

instance : BitSource BitCursor where
  readBit := bit
  readBits := field
  skipBits := skip

end BitCursor

end LiveMedia.Bits
