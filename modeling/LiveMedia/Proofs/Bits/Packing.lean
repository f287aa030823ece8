import LiveMedia.Bits.Packing
import Mathlib.Algebra.Group.Nat.Defs
import Mathlib.Data.List.Basic
import Mathlib.Tactic.Lemma

set_option autoImplicit false

/-!
# Bit strings

A bit string of a given width spells just one number below `2 ^ width`, a byte string is made of
the bits of its bytes, and a bit string packed into bytes is read back with zeros at its end. The
code word of an Exp-Golomb value is a run of zeros, a one, and as many bits as there were zeros.

## Main results

* `LiveMedia.Bits.toNat_ofNat`, `LiveMedia.Bits.ofNat_toNat` — fields of a fixed width.
* `LiveMedia.Bits.ofNat_add`, `LiveMedia.Bits.ofNat_shiftLeft_or` — fields side by side.
* `LiveMedia.Bits.getElem?_ofBytes` — the bits of a byte string by their position.
* `LiveMedia.Bits.ofBytes_toBytes`, `LiveMedia.Bits.toBytes_ofBytes` — packed bits are read back,
  and bytes are packed again from their bits.
* `LiveMedia.Bits.expGolomb_eq` — the code word of an Exp-Golomb value by its parts.
-/

namespace LiveMedia.Bits

variable {k s : Nat} {bits : List Bool}

/-! ## Fields -/

/-- The first bit counts most. -/
lemma toNat_cons (b : Bool) (bits : List Bool) :
    toNat (b :: bits) = 2 ^ bits.length * b.toNat + toNat bits := by
  -- with each bit the digits read so far move up by one place
  have h : ∀ (n : Nat) (bs : List Bool),
      bs.foldl (fun n b => 2 * n + b.toNat) n = 2 ^ bs.length * n + toNat bs := by
    intro n bs
    induction bs generalizing n with
    | nil => simp [toNat]
    | cons c bs ih =>
      rw [toNat, List.foldl_cons, List.foldl_cons, ih, ih (2 * 0 + c.toNat), Nat.mul_zero,
        Nat.zero_add, List.length_cons, Nat.pow_succ, Nat.mul_assoc, Nat.mul_add, Nat.add_assoc]
  rw [toNat, List.foldl_cons, Nat.mul_zero, Nat.zero_add, h]

lemma toNat_lt (bits : List Bool) : toNat bits < 2 ^ bits.length := by
  induction bits with
  | nil => simp [toNat]
  | cons b bits ih =>
    have hb : b.toNat + 1 ≤ 2 := b.toNat_lt
    calc toNat (b :: bits)
        = 2 ^ bits.length * b.toNat + toNat bits := toNat_cons b bits
      _ < 2 ^ bits.length * (b.toNat + 1) := Nat.add_lt_add_left ih _
      _ ≤ 2 ^ bits.length * 2 := Nat.mul_le_mul_left _ hb
      _ = 2 ^ (b :: bits).length := (Nat.pow_succ ..).symm

/-- A field holds the low bits of its number. -/
theorem toNat_ofNat (width n : Nat) : toNat (ofNat width n) = n % 2 ^ width := by
  induction width with
  | zero => simp [ofNat, toNat, Nat.mod_one]
  | succ w ih =>
    rw [ofNat, toNat_cons, length_ofNat, ih, Nat.toNat_testBit, Nat.mod_pow_succ, Nat.add_comm]

/-- A field depends on the low bits of its number only. -/
lemma ofNat_congr {width n m : Nat} (h : ∀ i < width, n.testBit i = m.testBit i) :
    ofNat width n = ofNat width m := by
  induction width with
  | zero => rfl
  | succ w ih => rw [ofNat, ofNat, h w (by omega), ih fun i hi => h i (by omega)]

/-- A field does not tell the high bits of its number. -/
lemma ofNat_mod (width n : Nat) : ofNat width (n % 2 ^ width) = ofNat width n := by
  refine ofNat_congr fun i hi => ?_
  rw [Nat.testBit_mod_two_pow, decide_eq_true hi, Bool.true_and]

/-- The high bits of a field stand in front of its low bits. -/
lemma ofNat_add (m k n : Nat) : ofNat (m + k) n = ofNat m (n >>> k) ++ ofNat k n := by
  induction m with
  | zero => rw [Nat.zero_add, ofNat, List.nil_append]
  | succ m ih =>
    rw [Nat.add_right_comm, ofNat, ih, ofNat, Nat.testBit_shiftRight, Nat.add_comm k m,
      List.cons_append]

/-- A number that is shifted in front of another one stands in front of it. -/
lemma ofNat_shiftLeft_or (m : Nat) {k a b : Nat} (h : b < 2 ^ k) :
    ofNat (m + k) (a <<< k ||| b) = ofNat m a ++ ofNat k b := by
  have hhigh : (a <<< k ||| b) >>> k = a := by
    rw [Nat.shiftRight_or_distrib, Nat.shiftLeft_shiftRight, Nat.shiftRight_eq_div_pow b,
      Nat.div_eq_of_lt h, Nat.or_zero]
  have hlow : ofNat k (a <<< k ||| b) = ofNat k b := by
    refine ofNat_congr fun i hi => ?_
    rw [Nat.testBit_or, Nat.testBit_shiftLeft, decide_eq_false (Nat.not_le.2 hi), Bool.false_and,
      Bool.false_or]
  rw [ofNat_add, hhigh, hlow]

/-- A number that fits a field has zeros in front of it in a wider one. -/
lemma ofNat_add_of_lt (k : Nat) {width n : Nat} (h : n < 2 ^ width) :
    ofNat (k + width) n = List.replicate k false ++ ofNat width n := by
  have hzero : ofNat k 0 = List.replicate k false := by
    induction k with
    | zero => rfl
    | succ k ih => rw [ofNat, ih, Nat.zero_testBit, List.replicate_succ]
  rw [ofNat_add, Nat.shiftRight_eq_div_pow, Nat.div_eq_of_lt h, hzero]

/-- A bit string is the field of its number. -/
theorem ofNat_toNat (bits : List Bool) : ofNat bits.length (toNat bits) = bits := by
  induction bits with
  | nil => rfl
  | cons b bits ih =>
    have hbit (j : Nat) := Nat.testBit_two_pow_mul_add b.toNat (toNat_lt bits) j
    have hfirst : (toNat (b :: bits)).testBit bits.length = b := by
      rw [toNat_cons, hbit, if_neg (by omega), Nat.sub_self]
      cases b <;> rfl
    have hrest : ofNat bits.length (toNat (b :: bits)) = bits := by
      rw [← ih, length_ofNat]
      refine ofNat_congr fun i hi => ?_
      rw [ih, toNat_cons, hbit, if_pos hi]
    rw [List.length_cons, ofNat, hfirst, hrest]

/-- The low bits of a field are a field. -/
lemma drop_ofNat (i width n : Nat) : (ofNat width n).drop i = ofNat (width - i) n := by
  induction i generalizing width with
  | zero => rfl
  | succ i ih =>
    cases width with
    | zero => simp [ofNat]
    | succ w => rw [ofNat, List.drop_succ_cons, ih, Nat.add_sub_add_right]

lemma getElem?_ofNat {i width : Nat} (n : Nat) (h : i < width) :
    (ofNat width n)[i]? = some (n.testBit (width - 1 - i)) := by
  rw [← List.head?_drop, drop_ofNat]
  obtain ⟨w, hw⟩ : ∃ w, width - i = w + 1 := ⟨width - i - 1, by omega⟩
  rw [hw, ofNat, List.head?_cons, Nat.sub_right_comm, hw, Nat.add_sub_cancel]

/-! ## Bytes -/

@[simp] lemma ofBytes_nil : ofBytes [] = [] := rfl

lemma ofBytes_cons (b : UInt8) (data : Bytes) :
    ofBytes (b :: data) = ofNat 8 b.toNat ++ ofBytes data := rfl

lemma ofBytes_append (data data' : Bytes) :
    ofBytes (data ++ data') = ofBytes data ++ ofBytes data' :=
  List.flatMap_append

@[simp] lemma length_ofBytes (data : Bytes) : (ofBytes data).length = data.length * 8 := by
  induction data with
  | nil => rfl
  | cons b data ih =>
    rw [ofBytes_cons, List.length_append, length_ofNat, ih, List.length_cons, Nat.succ_mul,
      Nat.add_comm]

/-- A byte holds the low bits of its number. -/
lemma ofNat_toNat_ofNat (n : Nat) : ofNat 8 (UInt8.ofNat n).toNat = ofNat 8 n := by
  rw [UInt8.toNat_ofNat']
  exact ofNat_mod 8 n

/-- The bits of a byte string by their position. -/
theorem getElem?_ofBytes (data : Bytes) (i : Nat) :
    (ofBytes data)[i]? = data[i / 8]?.map fun b => b.toNat.testBit (7 - i % 8) := by
  induction data generalizing i with
  | nil => rfl
  | cons b data ih =>
    rw [ofBytes_cons]
    rcases Nat.lt_or_ge i 8 with hi | hi
    · rw [List.getElem?_append_left (by simpa using hi), getElem?_ofNat _ hi,
        Nat.div_eq_of_lt hi, Nat.mod_eq_of_lt hi]
      rfl
    · obtain ⟨i, rfl⟩ : ∃ j, i = j + 8 := ⟨i - 8, by omega⟩
      rw [List.getElem?_append_right (by simp), length_ofNat, Nat.add_sub_cancel, ih,
        Nat.add_div_right _ (by decide), Nat.add_mod_right, List.getElem?_cons_succ]

/-- A byte that starts with given bits ends in zeros. -/
lemma ofNat_octet (h : bits.length ≤ 8) :
    ofNat 8 (octet bits).toNat = bits ++ List.replicate (8 - bits.length) false := by
  have hvalue : ∀ k, toNat (bits ++ List.replicate k false) = toNat bits <<< k := by
    intro k
    induction k with
    | zero => simp
    | succ k ih =>
      rw [List.replicate_succ', ← List.append_assoc, toNat, List.foldl_concat, ← toNat, ih,
        Nat.shiftLeft_succ, Bool.toNat_false, Nat.add_zero]
  have hlen : (bits ++ List.replicate (8 - bits.length) false).length = 8 := by
    rw [List.length_append, List.length_replicate]
    omega
  have hlt := toNat_lt (bits ++ List.replicate (8 - bits.length) false)
  rw [hlen, hvalue] at hlt
  have hback := ofNat_toNat (bits ++ List.replicate (8 - bits.length) false)
  rw [hlen, hvalue] at hback
  rw [octet, UInt8.toNat_ofNat_of_lt' hlt, hback]

/-- Bits that do not begin with a whole byte are fewer than eight. -/
lemma length_lt_of_forall_ne
    (h : ∀ (b₀ b₁ b₂ b₃ b₄ b₅ b₆ b₇ : Bool) (rest : List Bool),
      bits = b₀ :: b₁ :: b₂ :: b₃ :: b₄ :: b₅ :: b₆ :: b₇ :: rest → False) : bits.length < 8 := by
  rcases bits with _ | ⟨b₀, _ | ⟨b₁, _ | ⟨b₂, _ | ⟨b₃, _ | ⟨b₄, _ | ⟨b₅, _ | ⟨b₆, _ | ⟨b₇, rest⟩⟩⟩⟩⟩⟩⟩⟩
  case cons.cons.cons.cons.cons.cons.cons.cons => exact absurd rfl (h _ _ _ _ _ _ _ _ rest)
  all_goals simp

/-- Packed bits are read back, with the zeros that fill the last byte. -/
theorem ofBytes_toBytes (bits : List Bool) :
    ofBytes (toBytes bits) = bits ++ List.replicate ((8 - bits.length % 8) % 8) false := by
  fun_induction toBytes bits with
  | case1 b₀ b₁ b₂ b₃ b₄ b₅ b₆ b₇ rest ih =>
    have hlen : (b₀ :: b₁ :: b₂ :: b₃ :: b₄ :: b₅ :: b₆ :: b₇ :: rest).length = rest.length + 8 :=
      rfl
    rw [ofBytes_cons, ofNat_octet (by simp), ih, hlen, Nat.add_mod_right]
    rfl
  | case2 => rfl
  | case3 bits hlong hnil =>
    have hlt := length_lt_of_forall_ne hlong
    have hpos : 0 < bits.length := List.length_pos_iff.2 hnil
    rw [ofBytes_cons, ofBytes_nil, List.append_nil, ofNat_octet (Nat.le_of_lt hlt),
      Nat.mod_eq_of_lt hlt, Nat.mod_eq_of_lt (a := 8 - bits.length) (by omega)]

/-- The bits of whole bytes are packed without padding. -/
lemma ofBytes_toBytes_of_dvd (h : 8 ∣ bits.length) : ofBytes (toBytes bits) = bits := by
  rw [ofBytes_toBytes, Nat.mod_eq_zero_of_dvd h]
  exact List.append_nil bits

/-- Whole bytes are packed into as many bytes. -/
lemma length_toBytes_of_dvd (h : 8 ∣ bits.length) : (toBytes bits).length = bits.length / 8 := by
  have hlen := length_ofBytes (toBytes bits)
  rw [ofBytes_toBytes_of_dvd h] at hlen
  rw [hlen, Nat.mul_div_cancel _ (Nat.succ_pos 7)]

/-- A byte is packed again from its bits. -/
lemma octet_ofNat (b : UInt8) : octet (ofNat 8 b.toNat) = b := by
  have hvalue : toNat (ofNat 8 b.toNat) = b.toNat := by
    rw [toNat_ofNat, Nat.mod_eq_of_lt b.toNat_lt]
  rw [octet, hvalue, length_ofNat, Nat.sub_self, Nat.shiftLeft_zero, UInt8.ofNat_toNat]

/-- A byte string is packed again from its bits. -/
lemma toBytes_ofBytes (data : Bytes) : toBytes (ofBytes data) = data := by
  induction data with
  | nil => rfl
  | cons b data ih =>
    show octet (ofNat 8 b.toNat) :: toBytes (ofBytes data) = _
    rw [octet_ofNat, ih]

/-- Bits at the front of a byte string that fill whole bytes are its first bytes. -/
lemma exists_eq_toBytes_append {data : Bytes} (h : bits <+: ofBytes data)
    (hdvd : 8 ∣ bits.length) : ∃ rest, data = toBytes bits ++ rest := by
  obtain ⟨k, hk⟩ := hdvd
  have hle : k ≤ data.length := by
    have hlen := h.length_le
    rw [length_ofBytes] at hlen
    omega
  have htake : (ofBytes (data.take k)).length = bits.length := by
    rw [length_ofBytes, List.length_take_of_le hle, hk, Nat.mul_comm]
  have hsplit : ofBytes (data.take k) ++ ofBytes (data.drop k) = ofBytes data := by
    rw [← ofBytes_append, List.take_append_drop]
  have hbits : bits = ofBytes (data.take k) := by
    refine List.IsPrefix.eq_of_length ?_ htake.symm
    exact List.prefix_of_prefix_length_le h ⟨_, hsplit⟩ (Nat.le_of_eq htake.symm)
  refine ⟨data.drop k, ?_⟩
  rw [hbits, toBytes_ofBytes, List.take_append_drop]

/-! ## Exp-Golomb codes -/

/-- The code word of a value: zeros, a one, and as many bits as there were zeros. -/
theorem expGolomb_eq (h : s < 2 ^ k) :
    expGolomb (2 ^ k - 1 + s) = List.replicate k false ++ true :: ofNat k s := by
  have hpos := Nat.two_pow_pos k
  have hvalue : 2 ^ k - 1 + s + 1 = 2 ^ k + s := by omega
  have hlog : (2 ^ k + s).log2 = k :=
    (Nat.log2_eq_iff (by omega)).2 ⟨by omega, by rw [Nat.pow_succ]; omega⟩
  have hbit (j : Nat) := Nat.testBit_two_pow_mul_add 1 h j
  rw [Nat.mul_one] at hbit
  have hfirst : (2 ^ k + s).testBit k = true := by
    rw [hbit, if_neg (by omega), Nat.sub_self]
    rfl
  have hrest : ofNat k (2 ^ k + s) = ofNat k s :=
    ofNat_congr fun i hi => by rw [hbit, if_pos hi]
  rw [expGolomb, hvalue, hlog, ofNat, hfirst, hrest]

/-- Every value has the parts of a code word. -/
lemma exists_expGolomb_parts (v : Nat) : ∃ k s, s < 2 ^ k ∧ v = 2 ^ k - 1 + s := by
  obtain ⟨hle, hlt⟩ := (Nat.log2_eq_iff (n := v + 1) (by omega)).1 rfl
  rw [Nat.pow_succ] at hlt
  exact ⟨(v + 1).log2, v + 1 - 2 ^ (v + 1).log2, by omega, by omega⟩

end LiveMedia.Bits
