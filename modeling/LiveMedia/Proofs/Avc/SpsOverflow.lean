import LiveMedia.Proofs.Avc.SpsWords

set_option autoImplicit false

/-!
# H.264 sequence parameter sets that leave their words

The deltas of a scaling list that a standard writer makes are small, but any signed Exp-Golomb value
can be read for one, and the sum behind the next scale is made of it before it is taken modulo 256.
Such a sum is the one number of a set that can leave its word, and the sets in which it does are told
here.

## Main definitions

* `LiveMedia.Avc.Sps.IsOverflowingList` — the deltas of a scaling list up to one whose sum is too
  large.
* `LiveMedia.Avc.Sps.Overflow` — the elements of a set up to such a delta.
* `LiveMedia.Avc.Sps.Overflows` — an escaped unit begins with such elements.

## Main results

* `LiveMedia.Avc.Sps.parse_eq_overflow_iff` — the units in which a sum is too large.
* `LiveMedia.Avc.Sps.builds_agree_iff` — where the two builds read the same.
* `LiveMedia.Avc.Sps.builds_disagree` — a unit of which they do not.
-/

namespace LiveMedia.Avc.Sps

open Bits Reads

/-! ## Elements -/

/-- The deltas of a scaling list of `size` entries behind the scale `last`, up to one whose sum is
too large for its word. -/
inductive IsOverflowingList : (size : Nat) → (last next : Int) → (deltas : List Int) → Prop where
  | here {size : Nat} {last next delta : Int} (hnext : next ≠ 0) (hcode : signedCode delta ≤ maxUe)
      (hlarge : scaleLimit ≤ last + delta + 256) : IsOverflowingList (size + 1) last next [delta]
  | there {size : Nat} {last next delta sum : Int} {deltas : List Int} (hnext : next ≠ 0)
      (hcode : signedCode delta ≤ maxUe) (hsum : scaleSum last delta = .ok sum)
      (hrest : IsOverflowingList size (if sum % 256 = 0 then last else sum % 256) (sum % 256)
        deltas) : IsOverflowingList (size + 1) last next (delta :: deltas)

/-- The elements of a set up to a delta whose sum is too large. -/
structure Overflow where
  /-- The header byte of the unit. -/
  header : Nat
  profile : Nat
  /-- The byte of constraint flags. -/
  constraint : Nat
  level : Nat
  id : Nat
  formatIdc : Nat
  /-- The flag of separate colour planes, which only sets with chroma format 3 have. -/
  separatePlanes : Option Bool
  bitDepthLuma : Nat
  bitDepthChroma : Nat
  transformBypass : Bool
  /-- The scaling lists in front of that of the delta. -/
  lists : List (Option (List Int))
  /-- The deltas of its list. -/
  deltas : List Int

namespace Overflow

/-- The elements can be written, each with a value that can be read. -/
structure WellFormed (x : Overflow) : Prop where
  header : x.header < 128
  type : NalType.ofHeader x.header = some .sps
  profile : x.profile < 256
  hasChroma : hasChromaInfo x.profile = true
  constraint : x.constraint < 256
  level : x.level < 256
  id : x.id ≤ maxUe
  formatIdc : x.formatIdc ≤ maxUe
  separatePlanes : x.separatePlanes.isSome ↔ x.formatIdc = 3
  bitDepthLuma : x.bitDepthLuma ≤ maxUe
  bitDepthChroma : x.bitDepthChroma ≤ maxUe
  count : x.lists.length < if x.formatIdc = 3 then 12 else 8
  lists : AreScalingLists 0 x.lists
  deltas : IsOverflowingList (scalingListSize x.lists.length) 8 8 x.deltas

/-- The elements as they are written. -/
def bits (x : Overflow) : List Bool :=
  ofNat 8 x.header ++ (ofNat 8 x.profile ++ (ofNat 8 x.constraint ++ (ofNat 8 x.level ++
    (expGolomb x.id ++ (expGolomb x.formatIdc ++ (x.separatePlanes.toList ++
      (expGolomb x.bitDepthLuma ++ (expGolomb x.bitDepthChroma ++ x.transformBypass :: true ::
        (x.lists.flatMap (optional (List.flatMap signedGolomb)) ++
          true :: x.deltas.flatMap signedGolomb)))))))))

end Overflow

/-! ## Reading up to the overflow -/

section

variable {bits : List Bool}

lemma failsOnly_takeBits (n : Nat) : FailsOnly (· ≠ .overflow) (takeBits n) := by
  intro bits e h
  rw [eq_truncated_of_takeBits h]
  rintro ⟨⟩

lemma failsOnly_readBit : FailsOnly (· ≠ .overflow) (readBit : Read (List Bool) Bool) := by
  rintro (_ | ⟨b, bits⟩) e h <;> cases h
  rintro ⟨⟩

lemma failsOnly_readBits (n : Nat) :
    FailsOnly (· ≠ .overflow) (readBits n : Read (List Bool) Nat) :=
  .ite (.throw (by rintro ⟨⟩)) ((failsOnly_takeBits n).map _)

lemma failsOnly_leadingZeros (budget : Nat) :
    FailsOnly (· ≠ .overflow) (leadingZeros budget : Read (List Bool) Nat) := by
  induction budget with
  | zero => exact .throw (by rintro ⟨⟩)
  | succ budget ih => exact failsOnly_readBit.bind fun _ => .ite (.pure _) (ih.bind fun _ => .pure _)

lemma failsOnly_readUe : FailsOnly (· ≠ .overflow) (readUe : Read (List Bool) Nat) :=
  (failsOnly_leadingZeros _).bind fun zeros => (failsOnly_readBits zeros).bind fun _ => .pure _

lemma failsOnly_readSe : FailsOnly (· ≠ .overflow) (readSe : Read (List Bool) Int) :=
  failsOnly_readUe.bind fun _ => .pure _

/-- Reads of single bits, of fields and of values do not overflow. -/
lemma failOnly_ofSource : Reads.FailOnly (· ≠ .overflow) (Reads.ofSource (List Bool)) where
  bit := failsOnly_readBit
  skipBit := (failsOnly_takeBits 1).map _
  byte := failsOnly_readBits 8
  ue := failsOnly_readUe
  se := failsOnly_readSe
  forbiddenBit := by rintro ⟨⟩
  notSps := by rintro ⟨⟩

lemma outcome_scalingList_eq_overflow_iff {size : Nat} {last next : Int} :
    (outcome ((ofSource _).scalingList size last next) bits).1 = .error .overflow ↔
      ∃ deltas rest, IsOverflowingList size last next deltas ∧
        bits = deltas.flatMap signedGolomb ++ rest := by
  induction size generalizing last next bits with
  | zero =>
    constructor
    · intro h
      cases h
    · rintro ⟨_, _, ⟨⟩, -⟩
  | succ size ih =>
    rw [Reads.scalingList]
    split
    · next hnext =>
      constructor
      · intro h
        cases h
      · rintro ⟨_, _, hlist, -⟩
        cases hlist with
        | here hne => exact absurd hnext hne
        | there hne => exact absurd hnext hne
    · next hnext =>
      rw [se_ofSource, failsOnly_readSe.bind_eq_error_iff]
      constructor
      · rintro ⟨delta, rest, hdelta, h⟩
        obtain ⟨hcode, rfl⟩ := outcome_readSe_eq_ok_iff.1 hdelta
        rw [scale_ofSource] at h
        split at h
        · next hfits =>
          obtain ⟨deltas, rest, hlist, rfl⟩ := ih.1 h
          exact ⟨delta :: deltas, rest, .there hnext hcode (if_pos hfits) hlist,
            by simp [signedGolomb]⟩
        · next hlarge =>
          exact ⟨[delta], rest, .here hnext hcode (Int.not_lt.1 hlarge), by simp [signedGolomb]⟩
      · rintro ⟨_, rest, hlist, rfl⟩
        cases hlist with
        | @here _ _ _ delta _ hcode hlarge =>
          refine ⟨delta, rest, outcome_readSe_eq_ok_iff.2 ⟨hcode, by simp [signedGolomb]⟩, ?_⟩
          rw [scale_ofSource, if_neg (Int.not_lt.2 hlarge)]
          rfl
        | @there _ _ _ delta _ deltas _ hcode hsum hlist =>
          rw [List.flatMap_cons, List.append_assoc]
          refine ⟨delta, _, outcome_readSe_eq_ok_iff.2 ⟨hcode, rfl⟩, ?_⟩
          rw [scale_ofSource_eq_ok_iff.2 ⟨_, hsum, rfl⟩]
          exact ih.2 ⟨deltas, rest, hlist, rfl⟩

lemma outcome_scalingLists_eq_overflow_iff {i count : Nat} :
    (outcome ((ofSource _).scalingLists i count) bits).1 = .error .overflow ↔
      ∃ lists deltas rest, lists.length < count ∧ AreScalingLists i lists ∧
        IsOverflowingList (scalingListSize (i + lists.length)) 8 8 deltas ∧
        bits = lists.flatMap (optional (List.flatMap signedGolomb)) ++
          true :: (deltas.flatMap signedGolomb ++ rest) := by
  induction count generalizing i bits with
  | zero =>
    constructor
    · intro h
      cases h
    · rintro ⟨lists, -, -, hlt, -⟩
      exact absurd hlt (Nat.not_lt_zero _)
  | succ count ih =>
    rw [Reads.scalingLists, bit_ofSource, failsOnly_readBit.bind_eq_error_iff]
    constructor
    · rintro ⟨b, rest, hb, h⟩
      obtain rfl := outcome_readBit_eq_ok_iff.1 hb
      cases b with
      | false =>
        obtain ⟨lists, deltas, rest, hlt, hlists, hdeltas, rfl⟩ := ih.1 h
        refine ⟨none :: lists, deltas, rest, Nat.succ_lt_succ hlt, ⟨fun _ h => (by cases h), hlists⟩,
          ?_, rfl⟩
        rwa [List.length_cons, ← Nat.add_assoc, Nat.add_right_comm]
      | true =>
        rw [if_pos rfl, outcome_bind_eq_error_iff] at h
        rcases h with h | ⟨⟨⟩, _, hread, h⟩
        · obtain ⟨deltas, rest, hdeltas, rfl⟩ := outcome_scalingList_eq_overflow_iff.1 h
          exact ⟨[], deltas, rest, Nat.succ_pos _, trivial, hdeltas, rfl⟩
        · obtain ⟨list, hlist, rfl⟩ := outcome_scalingList_eq_ok_iff.1 hread
          obtain ⟨lists, deltas, rest, hlt, hlists, hdeltas, rfl⟩ := ih.1 h
          refine ⟨some list :: lists, deltas, rest, Nat.succ_lt_succ hlt, ⟨?_, hlists⟩, ?_,
            by simp [optional]⟩
          · rintro _ ⟨⟩
            exact hlist
          · rwa [List.length_cons, ← Nat.add_assoc, Nat.add_right_comm]
    · rintro ⟨_ | ⟨_ | list, lists⟩, deltas, rest, hlt, hlists, hdeltas, rfl⟩
      · refine ⟨true, _, rfl, ?_⟩
        rw [if_pos rfl, outcome_bind_eq_error_iff]
        exact Or.inl (outcome_scalingList_eq_overflow_iff.2 ⟨deltas, rest, hdeltas, rfl⟩)
      · rw [List.length_cons, ← Nat.add_assoc, Nat.add_right_comm] at hdeltas
        exact ⟨false, _, rfl,
          ih.2 ⟨lists, deltas, rest, Nat.lt_of_succ_lt_succ hlt, hlists.2, hdeltas, rfl⟩⟩
      · rw [List.length_cons, ← Nat.add_assoc, Nat.add_right_comm] at hdeltas
        rw [List.flatMap_cons, List.append_assoc]
        refine ⟨true, _, rfl, ?_⟩
        rw [if_pos rfl, outcome_bind_eq_error_iff]
        exact Or.inr ⟨(), _, outcome_scalingList_eq_ok_iff.2 ⟨list, hlists.1 _ rfl, rfl⟩,
          ih.2 ⟨lists, deltas, rest, Nat.lt_of_succ_lt_succ hlt, hlists.2, hdeltas, rfl⟩⟩

lemma outcome_optionalBit_eq_overflow_iff {α : Type} {c : Prop} [Decidable c]
    {next : Read (List Bool) α} :
    (outcome (if c then readBit >>= fun _ => next else next) bits).1 = .error .overflow ↔
      ∃ (b : Option Bool) (rest : List Bool), (b.isSome ↔ c) ∧ bits = b.toList ++ rest ∧
        (outcome next rest).1 = .error .overflow := by
  by_cases hc : c
  · rw [if_pos hc, failsOnly_readBit.bind_eq_error_iff]
    constructor
    · rintro ⟨b, rest, hb, h⟩
      exact ⟨some b, rest, by simp [hc], outcome_readBit_eq_ok_iff.1 hb, h⟩
    · rintro ⟨_ | b, rest, hb, rfl, h⟩
      · cases hb.2 hc
      · exact ⟨b, rest, rfl, h⟩
  · rw [if_neg hc]
    constructor
    · exact fun h => ⟨none, bits, by simp [hc], rfl, h⟩
    · rintro ⟨_ | b, rest, hb, rfl, h⟩
      · exact h
      · exact absurd (hb.1 rfl) hc

lemma outcome_chroma_eq_overflow_iff :
    (outcome (ofSource _).chroma bits).1 = .error .overflow ↔
      ∃ (formatIdc : Nat) (separatePlanes : Option Bool) (bitDepthLuma bitDepthChroma : Nat)
        (transformBypass : Bool) (rest : List Bool),
        formatIdc ≤ maxUe ∧ (separatePlanes.isSome ↔ formatIdc = 3) ∧ bitDepthLuma ≤ maxUe ∧
        bitDepthChroma ≤ maxUe ∧
        (outcome ((ofSource _).scalingLists 0 (if formatIdc = 3 then 12 else 8)) rest).1 =
          .error .overflow ∧
        bits = expGolomb formatIdc ++ (separatePlanes.toList ++ (expGolomb bitDepthLuma ++
          (expGolomb bitDepthChroma ++ transformBypass :: true :: rest))) := by
  unfold Reads.chroma
  simp only [ue_ofSource, bit_ofSource, skipBit_ofSource, failsOnly_readUe.bind_eq_error_iff, failsOnly_readBit.bind_eq_error_iff,
    skipBits_one_bind, outcome_optionalBit_eq_overflow_iff, outcome_readUe_eq_ok_iff,
    outcome_readBit_eq_ok_iff]
  constructor
  · rintro ⟨f, _, ⟨hf, rfl⟩, planes, _, hplanes, rfl, luma, _, ⟨hluma, rfl⟩, chroma, _,
      ⟨hchroma, rfl⟩, bypass, _, rfl, matrix, rest, rfl, h⟩
    cases matrix with
    | false => cases h
    | true =>
      rw [if_pos rfl, FailsOnly.eq_error_bind_iff fun _ => .pure _] at h
      exact ⟨f, planes, luma, chroma, bypass, rest, hf, hplanes, hluma, hchroma, h, rfl⟩
  · rintro ⟨f, planes, luma, chroma, bypass, rest, hf, hplanes, hluma, hchroma, h, rfl⟩
    refine ⟨f, _, ⟨hf, rfl⟩, planes, _, hplanes, rfl, luma, _, ⟨hluma, rfl⟩, chroma, _,
      ⟨hchroma, rfl⟩, bypass, _, rfl, true, rest, rfl, ?_⟩
    rw [if_pos rfl, FailsOnly.eq_error_bind_iff fun _ => .pure _]
    exact h

lemma outcome_chromaFormat_eq_overflow_iff {profile : Nat} :
    (outcome ((ofSource _).chromaFormat profile) bits).1 = .error .overflow ↔
      hasChromaInfo profile = true ∧ (outcome (ofSource _).chroma bits).1 = .error .overflow := by
  unfold Reads.chromaFormat
  split
  · next hprofile => exact (and_iff_right hprofile).symm
  · next hprofile =>
    constructor
    · intro h
      cases h
    · exact fun h => absurd h.1 hprofile

/-- The sum behind a scale is too large just in a set that is written so.

**Proof sketch.** Neither the elements in front of the scaling lists nor those behind them overflow,
so that the lists do, behind the elements that are read in front of them; and of the lists the first
one does that is not read. -/
theorem outcome_readFields_eq_overflow_iff :
    (outcome readFields bits).1 = .error .overflow ↔
      ∃ x : Overflow, x.WellFormed ∧ x.bits <+: bits := by
  unfold readFields Reads.fields
  rw [failOnly_ofSource.header.bind_eq_error_iff]
  simp only [failOnly_ofSource.byte.bind_eq_error_iff, failOnly_ofSource.ue.bind_eq_error_iff,
    FailsOnly.eq_error_bind_iff fun _ => failOnly_ofSource.fieldsBehind _ _ _ _ _]
  simp only [byte_ofSource, ue_ofSource, outcome_header_eq_ok_iff,
    outcome_readBits_eq_ok_iff, outcome_readUe_eq_ok_iff, outcome_chromaFormat_eq_overflow_iff,
    outcome_chroma_eq_overflow_iff, outcome_scalingLists_eq_overflow_iff, Nat.zero_add]
  constructor
  · rintro ⟨⟨⟩, _, ⟨header, hheader, htype, rfl⟩, profile, _, ⟨-, hprofile, rfl⟩, constraint, _,
      ⟨-, hconstraint, rfl⟩, level, _, ⟨-, hlevel, rfl⟩, id, _, ⟨hid, rfl⟩, hchroma, formatIdc,
      planes, luma, chroma, bypass, _, hformat, hplanes, hluma, hchroma', ⟨lists, deltas, rest, hlt,
      hlists, hdeltas, rfl⟩, rfl⟩
    exact ⟨⟨header, profile, constraint, level, id, formatIdc, planes, luma, chroma, bypass, lists,
        deltas⟩, ⟨hheader, htype, hprofile, hchroma, hconstraint, hlevel, hid, hformat, hplanes, hluma,
        hchroma', hlt, hlists, hdeltas⟩, rest, by simp [Overflow.bits]⟩
  · rintro ⟨x, hx, rest, rfl⟩
    simp only [Overflow.bits, List.append_assoc, List.cons_append]
    exact ⟨(), _, ⟨x.header, hx.header, hx.type, rfl⟩, _, _, ⟨by decide, hx.profile, rfl⟩, _, _,
      ⟨by decide, hx.constraint, rfl⟩, _, _, ⟨by decide, hx.level, rfl⟩, _, _, ⟨hx.id, rfl⟩,
      hx.hasChroma, _, _, _, _, _, _, hx.formatIdc, hx.separatePlanes, hx.bitDepthLuma,
      hx.bitDepthChroma, ⟨x.lists, x.deltas, rest, hx.count, hx.lists, hx.deltas, rfl⟩, rfl⟩

/-- A size that is refused is no overflow. -/
lemma failsOnly_describe (f : Fields) :
    FailsOnly (· ≠ .overflow) (liftM f.describe : Read (List Bool) Sps) := by
  refine .liftM fun e h => ?_
  obtain hwidth | ⟨width, -, h⟩ := error_of_bind h
  · exact ne_overflow_of_sizeOr hwidth
  obtain hheight | ⟨height, -, h⟩ := error_of_bind h
  · exact ne_overflow_of_sizeOr hheight
  cases h

end

/-! ## Parsing -/

/-- An escaped unit begins with the elements of a set up to a delta whose sum is too large. -/
def Overflows (nal : Bytes) : Prop :=
  ∃ x : Overflow, x.WellFormed ∧ x.bits <+: ofBytes (Nal.unescape nal)

/-- A unit is not parsed any further than to a sum that is too large. -/
theorem parse_eq_overflow_iff {nal : Bytes} : parse nal = .error .overflow ↔ Overflows nal := by
  rw [parse_eq, read, FailsOnly.eq_error_bind_iff failsOnly_describe,
    outcome_readFields_eq_overflow_iff]
  rfl

/-- **Of all numbers of a set, the sum behind a scale is the one that can leave its word.** Whatever
bytes are parsed, a build for development reads what is read on numbers and stops at an overflow just
if they begin with a set up to a delta whose sum is too large. Just then the two builds disagree.

**Proof sketch.** On words every read is that on numbers, since no other result leaves its word
(`tracked_onWords`), and the fields that are read make sizes that fit (`describeOn_eq`); a release
never stops at an overflow (`failsOnly_readOn`). -/
theorem builds_agree_iff (nal : Bytes) :
    parseOn .dev nal = parse nal ∧
      (parseOn .dev nal = .error .overflow ↔ Overflows nal) ∧
      (parseOn .release nal = parseOn .dev nal ↔ ¬ Overflows nal) := by
  rw [parseOn_dev]
  refine ⟨rfl, parse_eq_overflow_iff, ?_⟩
  rw [← parse_eq_overflow_iff]
  constructor
  · intro hagree hlarge
    exact parseOn_release_ne nal (hagree.trans hlarge)
  · exact parseOn_release_of_ne

/-- A unit of the high profile whose first scaling list begins with the delta `2 ^ 31 - 8`. -/
def steepUnit : Bytes :=
  [0x67, 0x64, 0x00, 0x1F, 0xAD, 0x80, 0x00, 0x00, 0x03, 0x00, 0xFF, 0xFF, 0xFF, 0xF0, 0x01, 0xD0,
    0x28, 0x3F, 0x20]

/-- **The builds do not always agree.** A delta that is large enough stops a build for development,
and a release reads on. -/
theorem builds_disagree :
    ¬ ∀ nal, parseOn .dev nal ≠ .error .overflow ∧ parseOn .dev nal = parseOn .release nal :=
  fun h => (h steepUnit).1 (by decide +kernel)

/-- In a release the same delta makes a scale of zero, and the list ends. -/
example : (parseOn .release steepUnit).map (fun sps => (sps.width, sps.height)) = .ok (320, 240) := by
  decide +kernel

end LiveMedia.Avc.Sps
