import LiveMedia.Bits.Source

set_option autoImplicit false

/-!
# Writing bit fields

`BitWriter` collects fields and packs them into bytes, most significant bit first.

## Main definitions

* `LiveMedia.Bits.BitWriter` — the bits written so far.
-/

namespace LiveMedia.Bits

/-- The bits written so far. -/
structure BitWriter where
  bits : List Bool := []
  deriving DecidableEq, Repr

namespace BitWriter

/-- Appends one bit. -/
def writeBit (w : BitWriter) (b : Bool) : BitWriter :=
  ⟨w.bits ++ [b]⟩

/-- Appends the `n` low bits of `value`, at most 32. -/
def writeBits (w : BitWriter) (n value : Nat) : BitWriter :=
  ⟨w.bits ++ ofNat (min n maxFieldWidth) value⟩

/-- Appends an unsigned Exp-Golomb value. -/
def writeUe (w : BitWriter) (value : Nat) : BitWriter :=
  ⟨w.bits ++ expGolomb value⟩

/-- The number of bytes touched; the last one may be partial. -/
def size (w : BitWriter) : Nat :=
  (w.bits.length + 7) / 8

/-- Nothing has been written. -/
def isEmpty (w : BitWriter) : Bool :=
  w.bits.isEmpty

/-- The bytes written, the last one padded with zeros. -/
def finish (w : BitWriter) : Bytes :=
  toBytes w.bits

end BitWriter

end LiveMedia.Bits
