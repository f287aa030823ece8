import LiveMedia.Bytes
import Mathlib.Algebra.Group.Nat.Defs
import Mathlib.Tactic.Lemma

set_option autoImplicit false

/-!
# Big-endian numbers

A number below `256 ^ width` is spelled by just one string of `width` bytes, and every string of
`width` bytes spells such a number.

## Main results

* `LiveMedia.Bytes.toNatBE_ofNatBE` — the bytes of a number spell its remainder modulo
  `256 ^ width`.
* `LiveMedia.Bytes.ofNatBE_toNatBE` — a byte string is what spells its number.
-/

namespace LiveMedia.Bytes

/-- The first byte counts most. -/
lemma toNatBE_cons (b : UInt8) (rest : Bytes) :
    toNatBE (b :: rest) = 256 ^ rest.length * b.toNat + toNatBE rest := by
  -- with each byte the digits read so far move up by one place
  have h : ∀ (n : Nat) (bs : Bytes),
      bs.foldl (fun n b => n * 256 + b.toNat) n = 256 ^ bs.length * n + toNatBE bs := by
    intro n bs
    induction bs generalizing n with
    | nil => simp [toNatBE]
    | cons c bs ih =>
      rw [toNatBE, List.foldl_cons, List.foldl_cons, ih, ih (0 * 256 + c.toNat), Nat.zero_mul,
        Nat.zero_add, List.length_cons, Nat.pow_succ, Nat.mul_assoc, Nat.mul_comm 256, Nat.mul_add,
        Nat.add_assoc]
  rw [toNatBE, List.foldl_cons, Nat.zero_mul, Nat.zero_add, h]

lemma toNatBE_lt (data : Bytes) : toNatBE data < 256 ^ data.length := by
  induction data with
  | nil => simp [toNatBE]
  | cons b rest ih =>
    have hb : b.toNat + 1 ≤ 256 := b.toNat_lt
    calc toNatBE (b :: rest)
        = 256 ^ rest.length * b.toNat + toNatBE rest := toNatBE_cons b rest
      _ < 256 ^ rest.length * (b.toNat + 1) := Nat.add_lt_add_left ih _
      _ ≤ 256 ^ rest.length * 256 := Nat.mul_le_mul_left _ hb
      _ = 256 ^ (b :: rest).length := (Nat.pow_succ ..).symm

/-- The bytes of a number spell its remainder. -/
theorem toNatBE_ofNatBE (width n : Nat) : toNatBE (ofNatBE width n) = n % 256 ^ width := by
  induction width with
  | zero => simp [ofNatBE, toNatBE, Nat.mod_one]
  | succ w ih =>
    have hshift : n >>> (8 * w) = n / 256 ^ w := by
      rw [Nat.shiftRight_eq_div_pow, Nat.pow_mul]
    have hpow : 256 ^ (w + 1) = 256 ^ w * 256 := Nat.pow_succ _ _
    rw [ofNatBE, toNatBE_cons, ih, length_ofNatBE, UInt8.toNat_ofNat', hshift, hpow, Nat.mod_mul,
      Nat.add_comm]

lemma toNatBE_ofNatBE_of_lt {width n : Nat} (h : n < 256 ^ width) :
    toNatBE (ofNatBE width n) = n := by
  rw [toNatBE_ofNatBE, Nat.mod_eq_of_lt h]

/-- The leading byte is the quotient, and the other bytes spell the remainder. -/
lemma toNatBE_cons_div_mod (b : UInt8) (rest : Bytes) :
    toNatBE (b :: rest) / 256 ^ rest.length = b.toNat ∧
      toNatBE (b :: rest) % 256 ^ rest.length = toNatBE rest := by
  have hlt := toNatBE_lt rest
  rw [toNatBE_cons]
  refine ⟨?_, ?_⟩
  · rw [Nat.mul_add_div (Nat.zero_lt_of_lt hlt), Nat.div_eq_of_lt hlt, Nat.add_zero]
  · rw [Nat.mul_add_mod, Nat.mod_eq_of_lt hlt]

/-- Strings of one length that spell one number are equal. -/
lemma toNatBE_inj {data data' : Bytes} (hlen : data.length = data'.length)
    (h : toNatBE data = toNatBE data') : data = data' := by
  induction data generalizing data' with
  | nil => exact (List.length_eq_zero_iff.1 hlen.symm).symm
  | cons b rest ih =>
    obtain ⟨b', rest', rfl⟩ := List.exists_cons_of_length_eq_add_one hlen.symm
    have hrest : rest.length = rest'.length := Nat.succ.inj hlen
    obtain ⟨hb, hr⟩ := toNatBE_cons_div_mod b rest
    obtain ⟨hb', hr'⟩ := toNatBE_cons_div_mod b' rest'
    rw [h, hrest] at hb hr
    rw [UInt8.toNat_inj.1 (hb.symm.trans hb'), ih hrest (hr.symm.trans hr')]

/-- A byte string is what spells its number. -/
theorem ofNatBE_toNatBE (data : Bytes) : ofNatBE data.length (toNatBE data) = data :=
  toNatBE_inj (length_ofNatBE _ _) (toNatBE_ofNatBE_of_lt (toNatBE_lt data))

end LiveMedia.Bytes
