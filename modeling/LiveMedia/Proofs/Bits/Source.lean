import LiveMedia.Bits.Source
import LiveMedia.Proofs.Bits.Packing
import LiveMedia.Proofs.Outcome

set_option autoImplicit false

/-!
# Reading from a bit string

A bit string is itself a bit source, and the plainest one: a read takes bits off its front. What a
read takes off for a value is the field or the code word of the value, and nothing else. A source
is lawful if its reads are those of the bits that it has left; a program that only reads then gives
the same on every lawful source, up to its first failure.

## Main definitions

* `LiveMedia.Bits.Tracks`, `LiveMedia.Bits.Follows` — two programs give the same result, step for
  step, with some errors of the first one set aside or with none.
* `LiveMedia.Bits.Simulates` — the reads of one source track those of another one.
* `LiveMedia.Bits.LawfulBitSource` — a source whose reads are those of the bits it has left.

## Main results

* `LiveMedia.Bits.outcome_readBits_eq_ok_iff`, `LiveMedia.Bits.outcome_readUe_eq_ok_iff`,
  `LiveMedia.Bits.outcome_readSe_eq_ok_iff` — what is taken off for a value.
* `LiveMedia.Bits.follows_readUe`, `LiveMedia.Bits.follows_readSe` — Exp-Golomb values on a lawful
  source.
* `LiveMedia.Bits.Tracks.eq_truncated_of_lt` — bits that are cut short.
-/

namespace LiveMedia.Bits

/-! ## Bit strings as sources -/

/-- Takes the next `n` bits off a bit string, or none if there are fewer. -/
def takeBits (n : Nat) : Read (List Bool) (List Bool) := do
  let bits ← get
  if bits.length < n then
    throw .truncated
  else
    set (bits.drop n)
    pure (bits.take n)

/-- A bit string is read from its front. -/
instance : BitSource (List Bool) where
  readBit := do
    match ← get with
    | [] => throw .truncated
    | b :: rest =>
      set rest
      pure b
  readBits n :=
    if maxFieldWidth < n then throw (.invalid .wideRead) else toNat <$> takeBits n
  skipBits n := (fun _ => ()) <$> takeBits n

section

variable {bits rest : List Bool} {n : Nat}

@[simp] lemma outcome_readBit_nil : outcome readBit ([] : List Bool) = (.error .truncated, []) :=
  rfl

@[simp] lemma outcome_readBit_cons (b : Bool) (rest : List Bool) :
    outcome readBit (b :: rest) = (.ok b, rest) := rfl

lemma outcome_takeBits_of_lt (h : bits.length < n) :
    outcome (takeBits n) bits = (.error .truncated, bits) := by
  rw [takeBits, outcome_bind, outcome_get]
  dsimp only
  rw [if_pos h, outcome_throw]

lemma outcome_takeBits_append (h : bits.length = n) (rest : List Bool) :
    outcome (takeBits n) (bits ++ rest) = (.ok bits, rest) := by
  have hle : ¬ (bits ++ rest).length < n := by
    rw [List.length_append, h]
    omega
  rw [takeBits, outcome_bind, outcome_get]
  dsimp only
  rw [if_neg hle, List.take_left' h, List.drop_left' h]
  rfl

/-- Either the bits taken off are in front, or there are too few. -/
lemma length_lt_or_eq_append (bits : List Bool) (n : Nat) :
    bits.length < n ∨ ∃ taken rest, taken.length = n ∧ bits = taken ++ rest := by
  rcases Nat.lt_or_ge bits.length n with h | h
  · exact Or.inl h
  · exact Or.inr ⟨bits.take n, bits.drop n, List.length_take_of_le h, by simp⟩

/-- Taking bits off fails only if there are too few. -/
lemma eq_truncated_of_takeBits {e : MediaError}
    (h : (outcome (takeBits n) bits).1 = .error e) : e = .truncated := by
  rcases length_lt_or_eq_append bits n with hshort | ⟨taken, rest, hlen, rfl⟩
  · rw [outcome_takeBits_of_lt hshort] at h
    cases h
    rfl
  · rw [outcome_takeBits_append hlen] at h
    cases h

/-- For a bit, the bit is taken off. -/
lemma outcome_readBit_eq_ok_iff {b : Bool} :
    outcome readBit bits = (.ok b, rest) ↔ bits = b :: rest := by
  cases bits with
  | nil => simp
  | cons c bits => simp

/-- For a number, its field is taken off. -/
theorem outcome_readBits_eq_ok_iff {v : Nat} :
    outcome (readBits n) bits = (.ok v, rest) ↔
      n ≤ maxFieldWidth ∧ v < 2 ^ n ∧ bits = ofNat n v ++ rest := by
  show outcome (if maxFieldWidth < n then throw (.invalid .wideRead) else toNat <$> takeBits n)
    bits = _ ↔ _
  rcases Nat.lt_or_ge maxFieldWidth n with hwide | hn
  · rw [if_pos hwide]
    exact ⟨fun h => (by cases h), fun h => absurd h.1 (Nat.not_le.2 hwide)⟩
  · rw [if_neg (Nat.not_lt.2 hn), outcome_map]
    constructor
    · intro h
      rcases length_lt_or_eq_append bits n with hlt | ⟨taken, rest', hlen, rfl⟩
      · rw [outcome_takeBits_of_lt hlt] at h
        cases h
      · rw [outcome_takeBits_append hlen] at h
        cases h
        refine ⟨hn, hlen ▸ toNat_lt taken, ?_⟩
        rw [← hlen, ofNat_toNat]
    · rintro ⟨-, hv, rfl⟩
      rw [outcome_takeBits_append (length_ofNat n v)]
      dsimp only [Except.map]
      rw [toNat_ofNat, Nat.mod_eq_of_lt hv]

/-- For a skip, any bits are taken off. -/
lemma outcome_skipBits_eq_ok_iff :
    outcome (skipBits n) bits = (.ok (), rest) ↔
      ∃ skipped, skipped.length = n ∧ bits = skipped ++ rest := by
  show outcome ((fun _ => ()) <$> takeBits n) bits = _ ↔ _
  rw [outcome_map]
  constructor
  · intro h
    rcases length_lt_or_eq_append bits n with hlt | ⟨skipped, rest', hlen, rfl⟩
    · rw [outcome_takeBits_of_lt hlt] at h
      cases h
    · rw [outcome_takeBits_append hlen] at h
      cases h
      exact ⟨skipped, hlen, rfl⟩
  · rintro ⟨skipped, hlen, rfl⟩
    rw [outcome_takeBits_append hlen]
    rfl

/-- The zeros in front of a one are taken off together with it. -/
lemma outcome_leadingZeros_eq_ok_iff {budget k : Nat} :
    outcome (leadingZeros budget) bits = (.ok k, rest) ↔
      k < budget ∧ bits = List.replicate k false ++ true :: rest := by
  induction budget generalizing bits k with
  | zero => simp [leadingZeros]
  | succ budget ih =>
    rw [leadingZeros, outcome_bind_eq_iff]
    constructor
    · rintro ⟨b, bits', hb, h⟩
      obtain rfl := outcome_readBit_eq_ok_iff.1 hb
      cases b with
      | true =>
        cases h
        exact ⟨Nat.succ_pos _, rfl⟩
      | false =>
        rw [if_neg Bool.false_ne_true, outcome_bind_eq_iff] at h
        obtain ⟨zeros, rest', hzeros, h⟩ := h
        cases h
        obtain ⟨hlt, rfl⟩ := ih.1 hzeros
        exact ⟨Nat.succ_lt_succ hlt, rfl⟩
    · rintro ⟨hk, rfl⟩
      cases k with
      | zero => exact ⟨true, rest, rfl, rfl⟩
      | succ k =>
        refine ⟨false, List.replicate k false ++ true :: rest, rfl, ?_⟩
        rw [if_neg Bool.false_ne_true, outcome_bind_eq_iff]
        exact ⟨k, rest, ih.2 ⟨Nat.lt_of_succ_lt_succ hk, rfl⟩, rfl⟩

/-- The values that can be read as unsigned Exp-Golomb values are those below `2 ^ 32 - 1`. -/
def maxUe : Nat := 0xFFFFFFFE

/-- For an unsigned Exp-Golomb value, its code word is taken off.

**Proof sketch.** Of a code word with `k` zeros the value is `2 ^ k - 1` more than the number in the
field behind the one (`expGolomb_eq`), and the values whose code word has fewer than 32 zeros are
those up to `maxUe`. -/
theorem outcome_readUe_eq_ok_iff {v : Nat} :
    outcome readUe bits = (.ok v, rest) ↔ v ≤ maxUe ∧ bits = expGolomb v ++ rest := by
  rw [readUe, outcome_bind_eq_iff]
  constructor
  · rintro ⟨k, bits', hzeros, h⟩
    obtain ⟨s, rest', hfield, h⟩ := outcome_bind_eq_iff.1 h
    cases h
    obtain ⟨hk, rfl⟩ := outcome_leadingZeros_eq_ok_iff.1 hzeros
    obtain ⟨-, hs, rfl⟩ := outcome_readBits_eq_ok_iff.1 hfield
    have hpow : 2 ^ k ≤ 2 ^ 31 := Nat.pow_le_pow_right (by decide) (Nat.le_of_lt_succ hk)
    rw [Nat.one_shiftLeft, expGolomb_eq hs, List.append_assoc, List.cons_append]
    refine ⟨?_, rfl⟩
    unfold maxUe
    omega
  · rintro ⟨hv, rfl⟩
    obtain ⟨k, s, hs, rfl⟩ := exists_expGolomb_parts v
    have hk : k < maxFieldWidth := by
      refine (Nat.pow_lt_pow_iff_right (a := 2) (by decide)).1 ?_
      unfold maxUe at hv
      have : 2 ^ maxFieldWidth = 0x100000000 := rfl
      omega
    rw [expGolomb_eq hs, List.append_assoc, List.cons_append]
    refine ⟨k, ofNat k s ++ rest, outcome_leadingZeros_eq_ok_iff.2 ⟨hk, rfl⟩, ?_⟩
    refine outcome_bind_eq_iff.2 ⟨s, rest, ?_, by rw [Nat.one_shiftLeft]; rfl⟩
    exact outcome_readBits_eq_ok_iff.2 ⟨Nat.le_of_lt hk, hs, rfl⟩

lemma signedCode_signedValue (c : Nat) : signedCode (signedValue c) = c := by
  unfold signedCode signedValue
  split <;> split <;> omega

/-- For a signed Exp-Golomb value, the code word of its code number is taken off. -/
theorem outcome_readSe_eq_ok_iff {k : Int} :
    outcome readSe bits = (.ok k, rest) ↔
      signedCode k ≤ maxUe ∧ bits = expGolomb (signedCode k) ++ rest := by
  rw [readSe, outcome_bind_eq_iff]
  constructor
  · rintro ⟨code, rest', hcode, h⟩
    cases h
    rw [signedCode_signedValue]
    exact outcome_readUe_eq_ok_iff.1 hcode
  · intro h
    refine ⟨signedCode k, rest, outcome_readUe_eq_ok_iff.2 h, ?_⟩
    rw [signedValue_signedCode]
    rfl

end

/-! ## Programs that read -/

section

variable {σ τ α β : Type} {aside : MediaError → Prop} {R : σ → τ → Prop} {x : Read σ α}
  {y : Read τ α}

/-- From related sources both programs give the same result, unless the first one fails with an
error that is set aside, and if they succeed, the sources stay related. -/
def Tracks (aside : MediaError → Prop) (R : σ → τ → Prop) (x : Read σ α) (y : Read τ α) : Prop :=
  ∀ s t, R s t → (∃ e, aside e ∧ (outcome x s).1 = .error e) ∨
    ((outcome x s).1 = (outcome y t).1 ∧
      ∀ a, (outcome x s).1 = .ok a → R (outcome x s).2 (outcome y t).2)

namespace Tracks

lemma pure (a : α) : Tracks aside R (Pure.pure a) (Pure.pure a) :=
  fun _ _ h => Or.inr ⟨rfl, fun _ _ => h⟩

lemma throw (e : MediaError) :
    Tracks aside R (MonadExcept.throw e : Read σ α) (MonadExcept.throw e) :=
  fun _ _ _ => Or.inr ⟨rfl, fun _ h => by cases h⟩

lemma liftM (r : Except MediaError α) :
    Tracks aside R (MonadLiftT.monadLift r : Read σ α) (MonadLiftT.monadLift r) :=
  fun _ _ h => Or.inr ⟨rfl, fun _ _ => h⟩

/-- One program after another, of which the second ones need to be compared only for the values
that the first one can give. -/
lemma bind_of_post {P : α → Prop} {f : α → Read σ β} {g : α → Read τ β} (hx : Tracks aside R x y)
    (hpost : Returns P x) (hf : ∀ a, P a → Tracks aside R (f a) (g a)) :
    Tracks aside R (x >>= f) (y >>= g) := by
  intro s t h
  rw [outcome_bind, outcome_bind]
  have hpost := hpost s
  rcases hx s t h with ⟨e, he, hfail⟩ | ⟨hresult, hrelated⟩
  · rcases hs : outcome x s with ⟨e' | a, s'⟩ <;> rw [hs] at hfail <;> cases hfail
    exact Or.inl ⟨e, he, rfl⟩
  · rcases hs : outcome x s with ⟨e | a, s'⟩ <;> rcases ht : outcome y t with ⟨e' | a', t'⟩ <;>
      rw [hs, ht] at hresult hrelated <;> cases hresult
    · exact Or.inr ⟨rfl, fun _ h => by cases h⟩
    · rw [hs] at hpost
      exact hf a (hpost a rfl) s' t' (hrelated a rfl)

/-- One program after another. -/
lemma bind {f : α → Read σ β} {g : α → Read τ β} (hx : Tracks aside R x y)
    (hf : ∀ a, Tracks aside R (f a) (g a)) : Tracks aside R (x >>= f) (y >>= g) :=
  hx.bind_of_post (P := fun _ => True) (fun _ _ _ => trivial) fun a _ => hf a

lemma map (f : α → β) (hx : Tracks aside R x y) : Tracks aside R (f <$> x) (f <$> y) := by
  rw [← bind_pure_comp, ← bind_pure_comp]
  exact hx.bind fun _ => .pure _

lemma ite {c : Prop} [Decidable c] {x' : Read σ α} {y' : Read τ α} (hx : Tracks aside R x y)
    (hx' : Tracks aside R x' y') :
    Tracks aside R (if c then x else x') (if c then y else y') := by
  split
  · exact hx
  · exact hx'

end Tracks

/-- From related sources both programs give the same result, and if they succeed, the sources stay
related. -/
def Follows (R : σ → τ → Prop) (x : Read σ α) (y : Read τ α) : Prop :=
  ∀ s t, R s t → (outcome x s).1 = (outcome y t).1 ∧
    ∀ a, (outcome x s).1 = .ok a → R (outcome x s).2 (outcome y t).2

/-- To follow is to track with no error set aside. -/
lemma follows_iff_tracks : Follows R x y ↔ Tracks (fun _ => False) R x y := by
  refine forall₃_congr fun s t _ => ⟨Or.inr, ?_⟩
  rintro (⟨_, ⟨⟩, _⟩ | h)
  exact h

namespace Follows

lemma pure (a : α) : Follows R (Pure.pure a) (Pure.pure a) :=
  follows_iff_tracks.2 (.pure a)

lemma throw (e : MediaError) :
    Follows R (MonadExcept.throw e : Read σ α) (MonadExcept.throw e) :=
  follows_iff_tracks.2 (.throw e)

/-- One program after another. -/
lemma bind {f : α → Read σ β} {g : α → Read τ β} (hx : Follows R x y)
    (hf : ∀ a, Follows R (f a) (g a)) : Follows R (x >>= f) (y >>= g) :=
  follows_iff_tracks.2 ((follows_iff_tracks.1 hx).bind fun a => follows_iff_tracks.1 (hf a))

lemma map (f : α → β) (hx : Follows R x y) : Follows R (f <$> x) (f <$> y) :=
  follows_iff_tracks.2 ((follows_iff_tracks.1 hx).map f)

lemma ite {c : Prop} [Decidable c] {x' : Read σ α} {y' : Read τ α} (hx : Follows R x y)
    (hx' : Follows R x' y') : Follows R (if c then x else x') (if c then y else y') := by
  split
  · exact hx
  · exact hx'

end Follows

/-- The reads of the first source track those of the second one. -/
structure Simulates [BitSource σ] [BitSource τ] (aside : MediaError → Prop)
    (R : σ → τ → Prop) : Prop where
  readBit : Tracks aside R (readBit : Read σ Bool) readBit
  readBits (n : Nat) : Tracks aside R (readBits n : Read σ Nat) (readBits n)
  skipBits (n : Nat) : Tracks aside R (skipBits n : Read σ Unit) (skipBits n)

namespace Simulates

variable [BitSource σ] [BitSource τ]

lemma leadingZeros (h : Simulates aside R) (budget : Nat) :
    Tracks aside R (leadingZeros budget : Read σ Nat) (leadingZeros budget) := by
  induction budget with
  | zero => exact .throw _
  | succ budget ih => exact h.readBit.bind fun b => .ite (.pure _) (ih.bind fun _ => .pure _)

lemma readUe (h : Simulates aside R) : Tracks aside R (readUe : Read σ Nat) readUe :=
  (h.leadingZeros _).bind fun zeros => (h.readBits zeros).bind fun _ => .pure _

lemma readSe (h : Simulates aside R) : Tracks aside R (readSe : Read σ Int) readSe :=
  h.readUe.bind fun _ => .pure _

end Simulates

end

/-! ## Lawful sources -/

/-- A source whose reads are those of the bits it has left. -/
class LawfulBitSource (σ : Type) [BitSource σ] where
  /-- These bits are left to read. -/
  Left : σ → List Bool → Prop
  follows_readBit : Follows Left readBit readBit
  follows_readBits (n : Nat) : Follows Left (readBits n) (readBits n)
  follows_skipBits (n : Nat) : Follows Left (skipBits n) (skipBits n)

export LawfulBitSource (Left follows_readBit follows_readBits follows_skipBits)

section

variable {σ : Type} [BitSource σ] [LawfulBitSource σ]

/-- The bits that are left simulate a lawful source. -/
lemma simulates_left : Simulates (fun _ => False) (Left : σ → List Bool → Prop) where
  readBit := follows_iff_tracks.1 follows_readBit
  readBits n := follows_iff_tracks.1 (follows_readBits n)
  skipBits n := follows_iff_tracks.1 (follows_skipBits n)

/-- An unsigned Exp-Golomb value is read from the bits that are left. -/
theorem follows_readUe : Follows Left (readUe : Read σ Nat) readUe :=
  follows_iff_tracks.2 simulates_left.readUe

/-- A signed Exp-Golomb value is read from the bits that are left. -/
theorem follows_readSe : Follows Left (readSe : Read σ Int) readSe :=
  follows_iff_tracks.2 simulates_left.readSe

end

/-! ## Reading bit by bit -/

section

variable {σ : Type} {R : σ → List Bool → Prop} {bit : Read σ Bool} {n : Nat}

/-- A field that is read bit by bit is taken off the bits that are left. -/
lemma Follows.field (hbit : Follows R bit readBit) (n value : Nat) :
    Follows R (Read.field bit n value)
      ((fun taken => 2 ^ n * value + toNat taken) <$> takeBits n) := by
  induction n generalizing value with
  | zero =>
    intro s bits h
    have hnone : outcome (takeBits 0) bits = (.ok [], bits) :=
      @outcome_takeBits_append [] 0 rfl bits
    rw [outcome_map, hnone]
    exact ⟨by simp [Read.field, Except.map, toNat], fun _ _ => h⟩
  | succ n ih =>
    intro s bits h
    obtain ⟨hresult, hrelated⟩ := hbit s bits h
    rw [Read.field, outcome_bind, outcome_map]
    cases bits with
    | nil =>
      rw [outcome_readBit_nil] at hresult
      rcases hs : outcome bit s with ⟨e | b, s'⟩ <;> rw [hs] at hresult <;> cases hresult
      rw [outcome_takeBits_of_lt (Nat.succ_pos n)]
      exact ⟨rfl, fun _ h => by cases h⟩
    | cons b rest =>
      rw [outcome_readBit_cons] at hresult hrelated
      rcases hs : outcome bit s with ⟨e | b', s'⟩ <;> rw [hs] at hresult hrelated <;> cases hresult
      obtain ⟨hresult, hrelated⟩ := ih (2 * value + b.toNat) s' rest (hrelated b rfl)
      rw [outcome_map] at hresult hrelated
      rcases length_lt_or_eq_append rest n with hlt | ⟨taken, rest, hlen, rfl⟩
      · rw [outcome_takeBits_of_lt hlt] at hresult
        rw [outcome_takeBits_of_lt (by simpa using hlt)]
        refine ⟨hresult, fun a ha => ?_⟩
        rw [hresult] at ha
        cases ha
      · rw [outcome_takeBits_append hlen] at hresult hrelated
        rw [← List.cons_append, outcome_takeBits_append (by rw [List.length_cons, hlen])]
        have hvalue : 2 ^ (n + 1) * value + toNat (b :: taken) =
            2 ^ n * (2 * value + b.toNat) + toNat taken := by
          rw [toNat_cons, hlen, Nat.pow_succ, Nat.mul_add, Nat.mul_assoc, Nat.add_assoc]
        refine ⟨?_, hrelated⟩
        rw [hresult]
        exact congrArg Except.ok hvalue.symm

/-- A number that is read bit by bit is that of the field taken off the bits that are left. -/
lemma Follows.number (hbit : Follows R bit readBit) (n : Nat) :
    Follows R (Read.field bit n 0) (toNat <$> takeBits n) := by
  have hfield := hbit.field n 0
  simp only [Nat.mul_zero, Nat.zero_add] at hfield
  exact hfield

/-- A skip is a field that is thrown away. -/
lemma skip_eq (bit : Read σ Bool) (n value : Nat) :
    Read.skip bit n = (fun _ => ()) <$> Read.field bit n value := by
  induction n generalizing value with
  | zero => rfl
  | succ n ih =>
    rw [Read.skip, Read.field, map_bind]
    exact congrArg (bit >>= ·) (funext fun b => ih _)

/-- Bits that are skipped one by one are taken off the bits that are left. -/
lemma Follows.skip (hbit : Follows R bit readBit) (n : Nat) :
    Follows R (Read.skip bit n) (skipBits n) := by
  have h := (hbit.field n 0).map fun _ => ()
  rwa [Functor.map_map, ← skip_eq] at h

end

/-! ## Bits that are cut short -/

section

variable {α : Type} {behind : List Bool}

lemma tracks_takeBits (behind : List Bool) (n : Nat) :
    Tracks (· = .truncated) (fun bits whole => whole = bits ++ behind) (takeBits n) (takeBits n) := by
  rintro bits _ rfl
  rcases length_lt_or_eq_append bits n with hlt | ⟨taken, rest, hlen, rfl⟩
  · rw [outcome_takeBits_of_lt hlt]
    exact Or.inl ⟨_, rfl, rfl⟩
  · rw [List.append_assoc, outcome_takeBits_append hlen, outcome_takeBits_append hlen]
    exact Or.inr ⟨rfl, fun _ _ => rfl⟩

/-- Bits that are cut short are read like the whole of them, unless they turn out to end too
early. -/
lemma simulates_cut (behind : List Bool) :
    Simulates (· = .truncated) (fun bits whole : List Bool => whole = bits ++ behind) where
  readBit := by
    rintro (_ | ⟨b, bits⟩) _ rfl
    · exact Or.inl ⟨_, rfl, rfl⟩
    · exact Or.inr ⟨rfl, fun _ _ => rfl⟩
  readBits n := .ite (.throw _) ((tracks_takeBits behind n).map _)
  skipBits n := (tracks_takeBits behind n).map _

/-- A program finds that bits end too early if on the whole of them it reads beyond the cut. -/
lemma Tracks.eq_truncated_of_lt {x : Read (List Bool) α} {bits rest : List Bool} {a : α}
    (hx : Tracks (· = .truncated) (fun bits whole => whole = bits ++ behind) x x)
    (hwhole : outcome x (bits ++ behind) = (.ok a, rest)) (hlt : rest.length < behind.length) :
    (outcome x bits).1 = .error .truncated := by
  rcases hx bits _ rfl with ⟨e, rfl, hfail⟩ | ⟨hresult, hrest⟩
  · exact hfail
  · rw [hwhole] at hresult hrest
    have hlen := congrArg List.length (hrest a hresult)
    rw [List.length_append] at hlen
    dsimp only at hlen
    omega

end

end LiveMedia.Bits
