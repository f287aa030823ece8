set_option autoImplicit false

/-!
# Byte strings

Payloads and configuration records are byte strings. Multi-byte numbers inside them are
big-endian: the most significant byte comes first.

## Main definitions

* `LiveMedia.Bytes` — a byte string.
* `LiveMedia.Bytes.ofNatBE`, `LiveMedia.Bytes.toNatBE` — big-endian numbers of a fixed width.
* `LiveMedia.Bytes.slice?` — a range of a byte string, if it lies inside.
* `LiveMedia.Bytes.toHex` — two lower-case hexadecimal digits per byte.
-/

namespace LiveMedia

/-- A byte string, first byte first. -/
abbrev Bytes := List UInt8

namespace Bytes

/-! ## Big-endian numbers -/

/-- The number that `data` spells in base 256, most significant byte first. -/
def toNatBE (data : Bytes) : Nat :=
  data.foldl (fun n b => n * 256 + b.toNat) 0

/-- The `width` bytes that spell the low `8 * width` bits of `n`, most significant byte first. -/
def ofNatBE : (width n : Nat) → Bytes
  | 0, _ => []
  | w + 1, n => UInt8.ofNat (n >>> (8 * w)) :: ofNatBE w n

@[simp]
theorem length_ofNatBE (width n : Nat) : (ofNatBE width n).length = width := by
  induction width with
  | zero => rfl
  | succ w ih => simp [ofNatBE, ih]

/-! ## Ranges -/

/-- The `length` bytes that start at `offset`; `none` unless the string holds them all. -/
def slice? (data : Bytes) (offset length : Nat) : Option Bytes :=
  if offset + length ≤ data.length then some ((data.drop offset).take length) else none

/-! ## Hexadecimal text -/

/-- The two lower-case hexadecimal digits of a byte. -/
def hexDigits (b : UInt8) : List Char :=
  [Nat.digitChar (b.toNat / 16), Nat.digitChar (b.toNat % 16)]

/-- The lower-case hexadecimal text of a byte string, two digits per byte. -/
def toHex (data : Bytes) : String :=
  String.ofList (data.flatMap hexDigits)

end Bytes

end LiveMedia
