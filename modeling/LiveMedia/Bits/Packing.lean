import LiveMedia.Bytes

set_option autoImplicit false

/-!
# Bit strings

A bit string lists bits in the order in which a bitstream carries them: the most significant
bit of every field and of every byte comes first.

## Main definitions

* `LiveMedia.Bits.ofNat`, `LiveMedia.Bits.toNat` — unsigned fields of a fixed width.
* `LiveMedia.Bits.expGolomb` — the code word of an unsigned Exp-Golomb value, ue(v).
* `LiveMedia.Bits.signedCode`, `LiveMedia.Bits.signedValue` — the code number of a signed
  Exp-Golomb value, se(v), and the value of a code number.
* `LiveMedia.Bits.ofBytes`, `LiveMedia.Bits.toBytes` — the bits of a byte string, and bits packed
  into bytes with zero padding at the end.
-/

namespace LiveMedia.Bits

/-! ## Fields -/

/-- The `width` low bits of `n`, most significant first. -/
def ofNat : (width n : Nat) → List Bool
  | 0, _ => []
  | w + 1, n => n.testBit w :: ofNat w n

/-- The number that a bit string spells in base 2. -/
def toNat (bits : List Bool) : Nat :=
  bits.foldl (fun n b => 2 * n + b.toNat) 0

@[simp]
theorem length_ofNat (width n : Nat) : (ofNat width n).length = width := by
  induction width with
  | zero => rfl
  | succ w ih => simp [ofNat, ih]

/-! ## Exp-Golomb codes -/

/-- The code word of `v`: as many zeros as `v + 1` has bits after its first one, then the bits
of `v + 1`. -/
def expGolomb (v : Nat) : List Bool :=
  List.replicate (v + 1).log2 false ++ ofNat ((v + 1).log2 + 1) (v + 1)

/-- The code number of a signed value: `1, -1, 2, -2, …` have the code numbers `1, 2, 3, 4, …`. -/
def signedCode (k : Int) : Nat :=
  if 0 < k then 2 * k.toNat - 1 else 2 * (-k).toNat

/-- The signed value with code number `c`. -/
def signedValue (c : Nat) : Int :=
  if c % 2 = 0 then -((c + 1) / 2 : Nat) else ((c + 1) / 2 : Nat)

theorem signedValue_signedCode (k : Int) : signedValue (signedCode k) = k := by
  unfold signedValue signedCode
  split <;> split <;> omega

/-! ## Bytes -/

/-- The bits of a byte string. -/
def ofBytes (data : Bytes) : List Bool :=
  data.flatMap fun b => ofNat 8 b.toNat

/-- The byte that starts with `bits` (at most eight) and ends in zeros. -/
def octet (bits : List Bool) : UInt8 :=
  UInt8.ofNat (toNat bits <<< (8 - bits.length))

/-- The bits packed into bytes; the last byte is padded with zeros. -/
def toBytes : List Bool → Bytes
  | b₀ :: b₁ :: b₂ :: b₃ :: b₄ :: b₅ :: b₆ :: b₇ :: rest =>
    octet [b₀, b₁, b₂, b₃, b₄, b₅, b₆, b₇] :: toBytes rest
  | [] => []
  | bits => [octet bits]

end LiveMedia.Bits
