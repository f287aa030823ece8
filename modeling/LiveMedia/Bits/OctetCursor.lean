import LiveMedia.Bits.Source

set_option autoImplicit false

/-!
# A cursor over plain bytes that counts in bytes

`OctetCursor` keeps its place as the number of bytes that have been read and the number of bits of
the next one. A single bit moves the place by one, a field does so bit by bit after a check of its
length, and a skip works out the new place at once.

## Main definitions

* `LiveMedia.Bits.OctetCursor` — a byte string, a byte of it, and a bit of that byte.
-/

namespace LiveMedia.Bits

/-- A byte string, the number of its bytes that have been read, and of the bits of the next one. -/
structure OctetCursor where
  data : Bytes
  bytePos : Nat := 0
  bitPos : Nat := 0
  deriving DecidableEq, Repr

namespace OctetCursor

/-- The position in bits. -/
def position (c : OctetCursor) : Nat :=
  c.bytePos * 8 + c.bitPos

/-- The number of bits left to read. -/
def remaining (c : OctetCursor) : Nat :=
  c.data.length * 8 - c.position

/-- The position is a byte boundary. -/
def isAligned (c : OctetCursor) : Bool :=
  c.bitPos == 0

/-- The bytes from the next byte boundary on. -/
def remainingBytes (c : OctetCursor) : Bytes :=
  c.data.drop (if c.bitPos = 0 then c.bytePos else c.bytePos + 1)

/-- The cursor behind the next bit. -/
def advance (c : OctetCursor) : OctetCursor :=
  if c.bitPos + 1 = 8 then
    { c with bytePos := c.bytePos + 1, bitPos := 0 }
  else
    { c with bitPos := c.bitPos + 1 }

/-- The next bit. -/
def bit : Read OctetCursor Bool := do
  let c ← get
  match c.data[c.bytePos]? with
  | none => throw .truncated
  | some b =>
    set c.advance
    pure (b.toNat.testBit (7 - c.bitPos))

/-- The next `n` bits as a number. -/
def field (n : Nat) : Read OctetCursor Nat := do
  if maxFieldWidth < n then
    throw (.invalid .wideRead)
  if (← get).remaining < n then
    throw .truncated
  Read.field bit n 0

/-- Moves `n` bits on. -/
def skip (n : Nat) : Read OctetCursor Unit := do
  let c ← get
  if c.remaining < n then
    throw .truncated
  let target := c.position + n
  set { c with bytePos := target / 8, bitPos := target % 8 }

instance : BitSource OctetCursor where
  readBit := bit
  readBits := field
  skipBits := skip

end OctetCursor

end LiveMedia.Bits
