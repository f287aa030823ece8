import LiveMedia.Bytes

set_option autoImplicit false

/-!
# Emulation prevention

Inside a NAL unit two zero bytes are never followed by a byte up to `03`, so that no start code
can appear there: the writer puts a `03` in front of such a byte, and the reader drops it again.

## Main definitions

* `LiveMedia.Nal.escape` — inserts the emulation-prevention bytes.
* `LiveMedia.Nal.unescape` — drops them.
-/

namespace LiveMedia.Nal

/-- The number of zero bytes at the end of what has been passed, once `b` is passed too. -/
def zeroRunAfter (zeros : Nat) (b : UInt8) : Nat :=
  if b = 0 then zeros + 1 else 0

/-- Inserts emulation-prevention bytes into a string that follows `zeros` zero bytes. -/
def escapeFrom : (zeros : Nat) → Bytes → Bytes
  | _, [] => []
  | zeros, b :: rest =>
    if 2 ≤ zeros ∧ b ≤ 3 then
      3 :: b :: escapeFrom (zeroRunAfter 0 b) rest
    else
      b :: escapeFrom (zeroRunAfter zeros b) rest

/-- The payload with a `03` in front of every byte up to `03` that follows two zero bytes. -/
def escape (nal : Bytes) : Bytes :=
  escapeFrom 0 nal

/-- The byte `b` in front of `rest` is an emulation-prevention byte: a `03` behind two zero
bytes, and either the last byte or in front of a byte up to `03`. -/
def isEscape (zeros : Nat) (b : UInt8) (rest : Bytes) : Bool :=
  decide (2 ≤ zeros) && b == 3 && rest.head?.all (· ≤ 3)

/-- Drops the emulation-prevention bytes of a string that follows `zeros` zero bytes. -/
def unescapeFrom : (zeros : Nat) → Bytes → Bytes
  | _, [] => []
  | zeros, b :: rest =>
    if isEscape zeros b rest then
      unescapeFrom 0 rest
    else
      b :: unescapeFrom (zeroRunAfter zeros b) rest

/-- The payload without its emulation-prevention bytes. -/
def unescape (nal : Bytes) : Bytes :=
  unescapeFrom 0 nal

end LiveMedia.Nal
