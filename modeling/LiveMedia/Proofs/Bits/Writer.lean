import LiveMedia.Bits.Writer
import LiveMedia.Proofs.Bits.Rbsp
import Mathlib.Algebra.GroupWithZero.Nat

set_option autoImplicit false

/-!
# Writing fields and reading them back

A writer lays fields end to end, wherever the byte boundaries are, and fills the last byte with
zeros. A source that has the bits of the fields left returns them one after another, each as far as
its width goes, and has left what is behind them.

## Main definitions

* `LiveMedia.Bits.Field` — a field, with how it is written, the read that matches it and what that
  read returns.
* `LiveMedia.Bits.Field.Fits` — the fields that can be read back.

## Main results

* `LiveMedia.Bits.BitWriter.finish_writeBit` — what one more bit makes of the bytes.
* `LiveMedia.Bits.outcome_reads_of_left` — fields are read back from any lawful source.
* `LiveMedia.Bits.reads_written` — fields that are written are read back from the bytes.
-/

namespace LiveMedia.Bits

/-! ## Bytes, bit by bit -/

/-- The byte in which no bit is set but, if it is to be, the one at a position from the front. -/
def mask (b : Bool) (position : Nat) : UInt8 :=
  if b then 0x80 >>> UInt8.ofNat position else 0

/-- A byte that begins with some bits takes one more behind them. -/
lemma toBytes_concat_of_lt {bits : List Bool} (hpos : bits ≠ []) (hlt : bits.length < 8)
    (b : Bool) : toBytes (bits ++ [b]) = [octet bits ||| mask b bits.length] := by
  rcases bits with _ | ⟨b₀, _ | ⟨b₁, _ | ⟨b₂, _ | ⟨b₃, _ | ⟨b₄, _ | ⟨b₅, _ | ⟨b₆, _ | ⟨b₇, rest⟩⟩⟩⟩⟩⟩⟩⟩
  case nil => exact absurd rfl hpos
  case cons.cons.cons.cons.cons.cons.cons.cons =>
    simp only [List.length_cons] at hlt
    omega
  case cons.nil => revert b₀ b; decide
  case cons.cons.nil => revert b₀ b₁ b; decide
  case cons.cons.cons.nil => revert b₀ b₁ b₂ b; decide
  case cons.cons.cons.cons.nil => revert b₀ b₁ b₂ b₃ b; decide
  case cons.cons.cons.cons.cons.nil => revert b₀ b₁ b₂ b₃ b₄ b; decide
  case cons.cons.cons.cons.cons.cons.nil => revert b₀ b₁ b₂ b₃ b₄ b₅ b; decide +kernel
  case cons.cons.cons.cons.cons.cons.cons.nil => revert b₀ b₁ b₂ b₃ b₄ b₅ b₆ b; decide +kernel

/-- A bit opens a new byte at a byte boundary, and goes into the last byte elsewhere. -/
lemma toBytes_concat (bits : List Bool) (b : Bool) :
    toBytes (bits ++ [b]) =
      if bits.length % 8 = 0 then toBytes bits ++ [mask b 0]
      else (toBytes bits).modify (bits.length / 8) (· ||| mask b (bits.length % 8)) := by
  fun_induction toBytes bits with
  | case1 b₀ b₁ b₂ b₃ b₄ b₅ b₆ b₇ rest ih =>
    have hlen : (b₀ :: b₁ :: b₂ :: b₃ :: b₄ :: b₅ :: b₆ :: b₇ :: rest).length = rest.length + 8 :=
      rfl
    rw [hlen, Nat.add_mod_right, Nat.add_div_right _ (Nat.succ_pos 7)]
    show octet _ :: toBytes (rest ++ [b]) = _
    rw [ih]
    split
    · rfl
    · rw [List.modify_succ_cons]
  | case2 => cases b <;> rfl
  | case3 bits hlong hnil =>
    have hlt := length_lt_of_forall_ne hlong
    have hpos := List.length_pos_iff.2 hnil
    rw [toBytes_concat_of_lt hnil hlt, Nat.mod_eq_of_lt hlt, Nat.div_eq_of_lt hlt,
      if_neg (Nat.ne_of_gt hpos)]
    rfl

namespace BitWriter

/-- **The bytes of a writer, bit by bit.** One more bit goes into the last byte, behind the bits
that are there, or opens a new byte if there is no room. -/
theorem finish_writeBit (w : BitWriter) (b : Bool) :
    (w.writeBit b).finish =
      if w.bits.length % 8 = 0 then w.finish ++ [mask b 0]
      else w.finish.modify (w.bits.length / 8) (· ||| mask b (w.bits.length % 8)) :=
  toBytes_concat w.bits b

/-- The bytes are as many as have been touched. -/
lemma length_finish (w : BitWriter) : w.finish.length = w.size := by
  have h := length_ofBytes (toBytes w.bits)
  rw [ofBytes_toBytes, List.length_append, List.length_replicate] at h
  show (toBytes w.bits).length = (w.bits.length + 7) / 8
  omega

end BitWriter

/-! ## Fields -/

/-- A field that is written. -/
inductive Field where
  | bit (b : Bool)
  | bits (n value : Nat)
  | ue (value : Nat)
  /-- A signed number, written as its code number. -/
  | se (k : Int)
  deriving DecidableEq, Repr

namespace Field

/-- Writes a field behind the others. -/
def write (w : BitWriter) : Field → BitWriter
  | .bit b => w.writeBit b
  | .bits n value => w.writeBits n value
  | .ue value => w.writeUe value
  | .se k => w.writeUe (signedCode k)

/-- The fields that can be read back: those of up to 32 bits, and the Exp-Golomb values that fit in
32 bits. -/
def Fits : Field → Prop
  | .bit _ => True
  | .bits n _ => n ≤ 32
  | .ue value => value ≤ 0xFFFFFFFE
  | .se k => -0x7FFFFFFF ≤ k ∧ k ≤ 0x7FFFFFFF

instance (f : Field) : Decidable f.Fits :=
  match f with
  | .bit _ => .isTrue trivial
  | .bits n _ => inferInstanceAs (Decidable (n ≤ 32))
  | .ue value => inferInstanceAs (Decidable (value ≤ 0xFFFFFFFE))
  | .se k => inferInstanceAs (Decidable (-0x7FFFFFFF ≤ k ∧ k ≤ 0x7FFFFFFF))

/-- The number of bits of a field. -/
def width : Field → Nat
  | .bit _ => 1
  | .bits n _ => n
  | .ue value => 2 * (value + 1).log2 + 1
  | .se k => 2 * (signedCode k + 1).log2 + 1

/-- The read that matches a field. -/
def op : Field → BitOp
  | .bit _ => .bit
  | .bits n _ => .bits n
  | .ue _ => .ue
  | .se _ => .se

/-- What that read returns: of a field of fixed width only the bits that have room in it. -/
def value : Field → BitOp.Value
  | .bit b => .bit b
  | .bits n value => .number (value % 2 ^ n)
  | .ue value => .number value
  | .se k => .signed k

/-- The bits of a field. -/
def code : Field → List Bool
  | .bit b => [b]
  | .bits n value => ofNat n value
  | .ue value => expGolomb value
  | .se k => expGolomb (signedCode k)

variable {f : Field} {fields : List Field}

lemma length_expGolomb (v : Nat) : (expGolomb v).length = 2 * (v + 1).log2 + 1 := by
  rw [expGolomb, List.length_append, List.length_replicate, length_ofNat]
  omega

lemma length_code (f : Field) : f.code.length = f.width := by
  cases f with
  | bit b => rfl
  | bits n value => exact length_ofNat n value
  | ue value => exact length_expGolomb value
  | se k => exact length_expGolomb (signedCode k)

/-- A field is written behind the others. -/
lemma bits_write (h : f.Fits) (w : BitWriter) : (f.write w).bits = w.bits ++ f.code := by
  cases f with
  | bit b | ue value | se k => rfl
  | bits n value =>
    show w.bits ++ ofNat (min n maxFieldWidth) value = _
    rw [Nat.min_eq_left (show n ≤ maxFieldWidth from h)]
    rfl

lemma bits_writes (h : ∀ f ∈ fields, f.Fits) (w : BitWriter) :
    (fields.foldl write w).bits = w.bits ++ fields.flatMap code := by
  induction fields generalizing w with
  | nil => exact (List.append_nil _).symm
  | cons f fields ih =>
    rw [List.foldl_cons, ih fun g hg => h g (List.mem_cons_of_mem f hg),
      bits_write (h f List.mem_cons_self), List.append_assoc, List.flatMap_cons]

lemma length_codes (fields : List Field) :
    (fields.flatMap code).length = (fields.map width).sum := by
  rw [List.length_flatMap, List.map_congr_left fun f _ => length_code f]

/-- The code numbers of the signed numbers that fit are those that can be read. -/
lemma signedCode_le {k : Int} (h : (Field.se k).Fits) : signedCode k ≤ maxUe := by
  obtain ⟨hlow, hhigh⟩ : -0x7FFFFFFF ≤ k ∧ k ≤ 0x7FFFFFFF := h
  unfold signedCode maxUe
  split <;> omega

/-- From a bit string that begins with a field the field is read. -/
lemma outcome_perform_code (h : f.Fits) (rest : List Bool) :
    outcome f.op.perform (f.code ++ rest) = (.ok f.value, rest) := by
  cases f with
  | bit b =>
    show outcome (BitOp.Value.bit <$> readBit) (b :: rest) = _
    rw [outcome_map, outcome_readBit_cons]
    rfl
  | bits n value =>
    have hread : outcome (readBits n) (ofNat n value ++ rest) = (.ok (value % 2 ^ n), rest) := by
      refine outcome_readBits_eq_ok_iff.2 ⟨h, Nat.mod_lt _ (Nat.two_pow_pos n), ?_⟩
      rw [ofNat_mod]
    show outcome (BitOp.Value.number <$> readBits n) (ofNat n value ++ rest) = _
    rw [outcome_map, hread]
    rfl
  | ue value =>
    have hread : outcome readUe (expGolomb value ++ rest) = (.ok value, rest) :=
      outcome_readUe_eq_ok_iff.2 ⟨h, rfl⟩
    show outcome (BitOp.Value.number <$> readUe) (expGolomb value ++ rest) = _
    rw [outcome_map, hread]
    rfl
  | se k =>
    have hread : outcome readSe (expGolomb (signedCode k) ++ rest) = (.ok k, rest) :=
      outcome_readSe_eq_ok_iff.2 ⟨signedCode_le h, rfl⟩
    show outcome (BitOp.Value.signed <$> readSe) (expGolomb (signedCode k) ++ rest) = _
    rw [outcome_map, hread]
    rfl

end Field

/-! ## Reading back -/

section

variable {σ : Type} [BitSource σ] [LawfulBitSource σ]

/-- A source that has the bits of fields left returns the fields and has left what is behind them.

**Proof sketch.** Induction on the fields. The source reads like the bits that it has left
(`BitOp.follows_perform`), and from these the next field is taken off
(`Field.outcome_perform_code`). -/
lemma outcome_reads_of_left {fields : List Field} (hfits : ∀ f ∈ fields, f.Fits) {s : σ}
    {rest : List Bool} (h : Left s (fields.flatMap Field.code ++ rest)) :
    ∃ s', outcome ((fields.map Field.op).mapM BitOp.perform) s = (.ok (fields.map Field.value), s') ∧
      Left s' rest := by
  induction fields generalizing s with
  | nil => exact ⟨s, rfl, h⟩
  | cons f fields ih =>
    rw [List.flatMap_cons, List.append_assoc] at h
    obtain ⟨hresult, hleft⟩ := f.op.follows_perform s _ h
    rw [Field.outcome_perform_code (hfits f List.mem_cons_self)] at hresult hleft
    obtain ⟨s', hreads, hrest⟩ :=
      ih (fun g hg => hfits g (List.mem_cons_of_mem f hg)) (hleft _ hresult)
    refine ⟨s', ?_, hrest⟩
    rw [List.map_cons, List.mapM_cons, outcome_bind]
    rcases hs : outcome f.op.perform s with ⟨result, t⟩
    rw [hs] at hresult hreads
    subst hresult
    dsimp only
    rw [outcome_bind, hreads]
    rfl

end

/-- **Fields that are written are read back.** Let any fields be written into a new writer, of up to
32 bits or Exp-Golomb values that fit in 32 bits, in any order and wherever the byte boundaries
fall. The writer has then touched as many bytes as the widths of the fields add up to, the last one
counted in full. A cursor over the bytes returns the fields by the matching reads, a field of fixed
width without the bits that had no room in it. Fewer than eight bits are then left, and all of them
are zeros.

**Proof sketch.** The bits that are written are those of the fields, end to end
(`Field.bits_writes`), and packed into bytes they are read with the zeros that fill the last byte
(`ofBytes_toBytes`). A cursor is a lawful source, so it returns the fields and has the zeros left
(`outcome_reads_of_left`). -/
theorem reads_written (fields : List Field) (hfits : ∀ f ∈ fields, f.Fits) :
    let w := fields.foldl Field.write {}
    w.size = ((fields.map Field.width).sum + 7) / 8 ∧ w.finish.length = w.size ∧
    ∃ c : BitCursor,
      outcome ((fields.map Field.op).mapM BitOp.perform) { data := w.finish } =
        (.ok (fields.map Field.value), c) ∧
      c.remaining < 8 ∧ c.left = List.replicate c.remaining false := by
  intro w
  have hbits : w.bits = fields.flatMap Field.code := Field.bits_writes hfits {}
  have hleft : Left ({ data := w.finish } : BitCursor) (fields.flatMap Field.code ++
      List.replicate ((8 - w.bits.length % 8) % 8) false) := by
    show _ = BitCursor.left { data := toBytes w.bits }
    rw [BitCursor.left_new, ofBytes_toBytes, hbits]
  obtain ⟨c, hreads, hrest⟩ := outcome_reads_of_left hfits hleft
  have hzeros : c.left = List.replicate ((8 - w.bits.length % 8) % 8) false := hrest.symm
  have hremaining : c.remaining = (8 - w.bits.length % 8) % 8 := by
    rw [← c.length_left, hzeros, List.length_replicate]
  refine ⟨?_, w.length_finish, c, hreads, ?_, ?_⟩
  · show (w.bits.length + 7) / 8 = _
    rw [hbits, Field.length_codes]
  · rw [hremaining]
    exact Nat.mod_lt _ (Nat.succ_pos 7)
  · rw [hzeros, hremaining]

/-- The greatest value with a code word of 63 bits, a number that has no room in its field, and the
least of the signed numbers, between single bits. -/
theorem reads_written_across_bytes :
    let fields : List Field :=
      [.bit true, .ue 0xFFFFFFFE, .bits 5 0xFF, .bits 0 7, .se (-0x7FFFFFFF), .bit false]
    (fields.foldl Field.write {}).finish =
      [0x80, 0, 0, 0, 0xFF, 0xFF, 0xFF, 0xFF, 0xF8, 0, 0, 0, 0x0F, 0xFF, 0xFF, 0xFF, 0xF0] ∧
    ∃ c : BitCursor,
      outcome ((fields.map Field.op).mapM BitOp.perform)
          { data := (fields.foldl Field.write {}).finish } =
        (.ok [.bit true, .number 0xFFFFFFFE, .number 0x1F, .number 0, .signed (-0x7FFFFFFF),
          .bit false], c) ∧
      c.remaining < 8 ∧ c.left = List.replicate c.remaining false := by
  intro fields
  obtain ⟨-, -, hreads⟩ := reads_written fields (by decide)
  exact ⟨by decide +kernel, hreads⟩

end LiveMedia.Bits
