import LiveMedia.Proofs.Avc.SpsElements
import LiveMedia.Proofs.Avc.SpsReads
import LiveMedia.Proofs.Bits.Rbsp

set_option autoImplicit false

/-!
# Reading H.264 sequence parameter sets

Each piece of a sequence parameter set is read just from what is written for its elements, and so is
the whole set: reading takes the elements off and leaves what is behind them. From an escaped unit
the set is read as from its payload.

## Main definitions

* `LiveMedia.Avc.Sps.Begins` — an escaped unit begins with the elements of a set.

## Main results

* `LiveMedia.Avc.Sps.outcome_readFields_eq_ok_iff` — what is read, and from what.
* `LiveMedia.Avc.Sps.outcome_read_bits` — a set that is written is read.
* `LiveMedia.Avc.Sps.follows_read` — the set may be read from any lawful source.
* `LiveMedia.Avc.Sps.parse_of_begins`, `LiveMedia.Avc.Sps.exists_begins_of_parse` — escaped units.
-/

namespace LiveMedia.Avc.Sps

open Bits Reads

/-! ## Reading the pieces -/

section

variable {bits rest : List Bool}

lemma outcome_scalingList_eq_ok_iff {size : Nat} {last next : Int} {u : Unit} :
    outcome ((ofSource _).scalingList size last next) bits = (.ok u, rest) ↔
      ∃ deltas, IsScalingList size last next deltas ∧
        bits = deltas.flatMap signedGolomb ++ rest := by
  induction size generalizing last next bits with
  | zero =>
    constructor
    · intro h
      cases h
      exact ⟨[], .full, rfl⟩
    · rintro ⟨_, ⟨⟩, rfl⟩
      rfl
  | succ size ih =>
    rw [Reads.scalingList]
    split
    · next hnext =>
      subst hnext
      constructor
      · intro h
        cases h
        exact ⟨[], .ended, rfl⟩
      · rintro ⟨_, hlist, rfl⟩
        cases hlist with
        | ended => rfl
        | delta hnext => exact absurd rfl hnext
    · next hnext =>
      simp only [se_ofSource, outcome_bind_eq_iff, outcome_readSe_eq_ok_iff, outcome_liftM,
        Prod.mk.injEq, scale_ofSource_eq_ok_iff, ih]
      constructor
      · rintro ⟨delta, _, ⟨hcode, rfl⟩, _, _, ⟨⟨sum, hsum, rfl⟩, rfl⟩, deltas, hlist, rfl⟩
        exact ⟨delta :: deltas, .delta hnext hcode hsum hlist, by simp [signedGolomb]⟩
      · rintro ⟨_, hlist, rfl⟩
        cases hlist with
        | ended => exact absurd rfl hnext
        | @delta _ _ _ delta sum deltas _ hcode hsum hlist =>
          rw [List.flatMap_cons, List.append_assoc]
          exact ⟨delta, _, ⟨hcode, rfl⟩, _, _, ⟨⟨sum, hsum, rfl⟩, rfl⟩, deltas, hlist, rfl⟩

lemma outcome_scalingLists_eq_ok_iff {i count : Nat} {u : Unit} :
    outcome ((ofSource _).scalingLists i count) bits = (.ok u, rest) ↔
      ∃ lists, lists.length = count ∧ AreScalingLists i lists ∧
        bits = lists.flatMap (optional (List.flatMap signedGolomb)) ++ rest := by
  induction count generalizing i bits with
  | zero =>
    constructor
    · intro h
      cases h
      exact ⟨[], rfl, trivial, rfl⟩
    · rintro ⟨_, hlen, -, rfl⟩
      obtain rfl := List.length_eq_zero_iff.1 hlen
      rfl
  | succ count ih =>
    rw [Reads.scalingLists]
    simp only [bit_ofSource, outcome_bind_eq_iff, outcome_readBit_eq_ok_iff]
    constructor
    · rintro ⟨b, _, rfl, h⟩
      cases b with
      | false =>
        obtain ⟨lists, hlen, hlists, rfl⟩ := ih.1 h
        exact ⟨none :: lists, congrArg (· + 1) hlen, ⟨fun _ h => (by cases h), hlists⟩, rfl⟩
      | true =>
        rw [if_pos rfl, outcome_bind_eq_iff] at h
        obtain ⟨⟨⟩, _, hlist, h⟩ := h
        obtain ⟨deltas, hdeltas, rfl⟩ := outcome_scalingList_eq_ok_iff.1 hlist
        obtain ⟨lists, hlen, hlists, rfl⟩ := ih.1 h
        refine ⟨some deltas :: lists, congrArg (· + 1) hlen, ⟨?_, hlists⟩, by simp [optional]⟩
        rintro _ ⟨⟩
        exact hdeltas
    · rintro ⟨_ | ⟨_ | deltas, lists⟩, hlen, hlists, rfl⟩
      · cases hlen
      · exact ⟨false, _, rfl, ih.2 ⟨lists, Nat.succ_injective hlen, hlists.2, rfl⟩⟩
      · rw [List.flatMap_cons, List.append_assoc]
        refine ⟨true, _, rfl, ?_⟩
        rw [if_pos rfl, outcome_bind_eq_iff]
        exact ⟨(), _, outcome_scalingList_eq_ok_iff.2 ⟨deltas, hlists.1 _ rfl, rfl⟩,
          ih.2 ⟨lists, Nat.succ_injective hlen, hlists.2, rfl⟩⟩

lemma outcome_signed_eq_ok_iff {count : Nat} {u : Unit} :
    outcome ((ofSource _).signed count) bits = (.ok u, rest) ↔
      ∃ values : List Int, values.length = count ∧ (∀ k ∈ values, signedCode k ≤ maxUe) ∧
        bits = values.flatMap signedGolomb ++ rest := by
  induction count generalizing bits with
  | zero =>
    constructor
    · intro h
      cases h
      exact ⟨[], rfl, fun _ h => (by cases h), rfl⟩
    · rintro ⟨_, hlen, -, rfl⟩
      obtain rfl := List.length_eq_zero_iff.1 hlen
      rfl
  | succ count ih =>
    simp only [Reads.signed, se_ofSource, outcome_bind_eq_iff, outcome_readSe_eq_ok_iff, ih]
    constructor
    · rintro ⟨k, _, ⟨hk, rfl⟩, values, hlen, hvalues, rfl⟩
      exact ⟨k :: values, congrArg (· + 1) hlen, List.forall_mem_cons.2 ⟨hk, hvalues⟩,
        by simp [signedGolomb]⟩
    · rintro ⟨_ | ⟨k, values⟩, hlen, hvalues, rfl⟩
      · cases hlen
      · obtain ⟨hk, hvalues⟩ := List.forall_mem_cons.1 hvalues
        rw [List.flatMap_cons, List.append_assoc]
        exact ⟨k, _, ⟨hk, rfl⟩, values, Nat.succ_injective hlen, hvalues, rfl⟩

lemma outcome_header_eq_ok_iff {u : Unit} :
    outcome (ofSource _).header bits = (.ok u, rest) ↔
      ∃ header < 128, NalType.ofHeader header = some .sps ∧ bits = ofNat 8 header ++ rest := by
  simp only [Reads.header, byte_ofSource, outcome_bind_eq_iff, outcome_readBits_eq_ok_iff]
  constructor
  · rintro ⟨header, _, ⟨-, -, rfl⟩, h⟩
    rcases Nat.lt_or_ge header 128 with hlt | hge
    · by_cases htype : NalType.ofHeader header = some .sps
      · rw [if_neg (Nat.not_le.2 hlt), if_neg (not_not.2 htype)] at h
        cases h
        exact ⟨header, hlt, htype, rfl⟩
      · rw [if_neg (Nat.not_le.2 hlt), if_pos htype] at h
        cases h
    · rw [if_pos hge] at h
      cases h
  · rintro ⟨header, hlt, htype, rfl⟩
    refine ⟨header, rest, ⟨by decide, by omega, rfl⟩, ?_⟩
    rw [if_neg (Nat.not_le.2 hlt), if_neg (not_not.2 htype)]
    rfl

/-- A bit that is there under a condition. -/
lemma outcome_optionalBit_eq_ok_iff {α : Type} {c : Prop} [Decidable c]
    {next : Read (List Bool) α} {a : α} :
    outcome (if c then readBit >>= fun _ => next else next) bits = (.ok a, rest) ↔
      ∃ (b : Option Bool) (bits' : List Bool), (b.isSome ↔ c) ∧ bits = b.toList ++ bits' ∧
        outcome next bits' = (.ok a, rest) := by
  by_cases hc : c
  · rw [if_pos hc, outcome_bind_eq_iff]
    constructor
    · rintro ⟨b, bits', hb, h⟩
      exact ⟨some b, bits', by simp [hc], outcome_readBit_eq_ok_iff.1 hb, h⟩
    · rintro ⟨_ | b, bits', hb, rfl, h⟩
      · cases hb.2 hc
      · exact ⟨b, bits', rfl, h⟩
  · rw [if_neg hc]
    constructor
    · exact fun h => ⟨none, bits, by simp [hc], rfl, h⟩
    · rintro ⟨_ | b, bits', hb, rfl, h⟩
      · exact h
      · exact absurd (hb.1 rfl) hc

/-- Skipping a bit is reading it. -/
lemma skipBits_one_bind {α : Type} (next : Read (List Bool) α) :
    (skipBits 1 >>= fun _ => next) = readBit >>= fun _ => next := by
  funext bits
  cases bits <;> rfl

lemma outcome_chroma_eq_ok_iff {formatIdc : Nat} :
    outcome (ofSource _).chroma bits = (.ok formatIdc, rest) ↔
      ∃ c : ChromaElements, c.WellFormed ∧ c.formatIdc = formatIdc ∧ bits = c.bits ++ rest := by
  unfold Reads.chroma
  simp only [ue_ofSource, bit_ofSource, skipBit_ofSource, outcome_bind_eq_iff,
    outcome_readUe_eq_ok_iff, outcome_readBit_eq_ok_iff, skipBits_one_bind,
    outcome_optionalBit_eq_ok_iff]
  constructor
  · rintro ⟨f, _, ⟨hf, rfl⟩, planes, _, hplanes, rfl, luma, _, ⟨hluma, rfl⟩, chroma, _,
      ⟨hchroma, rfl⟩, bypass, _, rfl, matrix, _, rfl, h⟩
    cases matrix with
    | false =>
      cases h
      exact ⟨⟨formatIdc, planes, luma, chroma, bypass, none⟩,
        ⟨hf, hplanes, hluma, hchroma, fun _ h => (by cases h)⟩, rfl,
        by simp [ChromaElements.bits, optional]⟩
    | true =>
      rw [if_pos rfl, outcome_bind_eq_iff] at h
      obtain ⟨⟨⟩, _, hlists, h⟩ := h
      cases h
      obtain ⟨lists, hlen, hwell, rfl⟩ := outcome_scalingLists_eq_ok_iff.1 hlists
      refine ⟨⟨formatIdc, planes, luma, chroma, bypass, some lists⟩,
        ⟨hf, hplanes, hluma, hchroma, ?_⟩, rfl, by simp [ChromaElements.bits, optional]⟩
      rintro _ ⟨⟩
      exact ⟨hlen, hwell⟩
  · rintro ⟨⟨f, planes, luma, chroma, bypass, scaling⟩, ⟨hf, hplanes, hluma, hchroma, hscaling⟩, rfl,
      rfl⟩
    simp only [ChromaElements.bits, List.append_assoc, List.cons_append]
    cases scaling with
    | none =>
      exact ⟨f, _, ⟨hf, rfl⟩, planes, _, hplanes, rfl, luma, _, ⟨hluma, rfl⟩, chroma, _,
        ⟨hchroma, rfl⟩, bypass, _, rfl, false, _, rfl, rfl⟩
    | some lists =>
      obtain ⟨hlen, hlists⟩ := hscaling lists rfl
      refine ⟨f, _, ⟨hf, rfl⟩, planes, _, hplanes, rfl, luma, _, ⟨hluma, rfl⟩, chroma, _,
        ⟨hchroma, rfl⟩, bypass, _, rfl, true, _, rfl, ?_⟩
      rw [if_pos rfl, outcome_bind_eq_iff]
      exact ⟨(), rest, outcome_scalingLists_eq_ok_iff.2 ⟨lists, hlen, hlists, rfl⟩, rfl⟩

lemma outcome_chromaFormat_eq_ok_iff {profile formatIdc : Nat} :
    outcome ((ofSource _).chromaFormat profile) bits = (.ok formatIdc, rest) ↔
      ∃ c : Option ChromaElements, c.isSome = hasChromaInfo profile ∧ (∀ x ∈ c, x.WellFormed) ∧
        c.elim 1 (·.formatIdc) = formatIdc ∧ bits = c.elim [] (·.bits) ++ rest := by
  unfold Reads.chromaFormat
  cases hasChromaInfo profile with
  | false =>
    rw [if_neg Bool.false_ne_true]
    constructor
    · intro h
      cases h
      exact ⟨none, rfl, fun _ h => (by cases h), rfl, rfl⟩
    · rintro ⟨c, hc, -, rfl, rfl⟩
      obtain rfl := Option.isSome_eq_false_iff.1 hc |> Option.isNone_iff_eq_none.1
      rfl
  | true =>
    rw [if_pos rfl, outcome_chroma_eq_ok_iff]
    constructor
    · rintro ⟨c, hc, rfl, rfl⟩
      refine ⟨some c, rfl, ?_, rfl, rfl⟩
      rintro _ ⟨⟩
      exact hc
    · rintro ⟨_ | c, hsome, hc, rfl, rfl⟩
      · cases hsome
      · exact ⟨c, hc c rfl, rfl, rfl⟩

lemma outcome_frameMbsOnly_eq_ok_iff {frameMbsOnly : Bool} :
    outcome (ofSource _).frameMbsOnly bits = (.ok frameMbsOnly, rest) ↔
      ∃ adaptive : Option Bool, adaptive.isNone = frameMbsOnly ∧
        bits = frameMbsOnly :: (adaptive.toList ++ rest) := by
  simp only [Reads.frameMbsOnly, bit_ofSource, outcome_bind_eq_iff, outcome_readBit_eq_ok_iff]
  constructor
  · rintro ⟨_ | _, _, rfl, h⟩
    · simp only [Bool.false_eq_true, if_false, outcome_bind_eq_iff, outcome_readBit_eq_ok_iff] at h
      obtain ⟨adaptive, _, rfl, h⟩ := h
      cases h
      exact ⟨some adaptive, rfl, rfl⟩
    · cases h
      exact ⟨none, rfl, rfl⟩
  · rintro ⟨_ | adaptive, rfl, rfl⟩
    · exact ⟨true, rest, rfl, rfl⟩
    · exact ⟨false, adaptive :: rest, rfl, rfl⟩

lemma outcome_pictureOrder_eq_ok_iff {u : Unit} :
    outcome (ofSource _).pictureOrder bits = (.ok u, rest) ↔
      ∃ (log2MaxFrameNum : Nat) (order : OrderElements), log2MaxFrameNum ≤ maxUe ∧
        order.WellFormed ∧ bits = expGolomb log2MaxFrameNum ++ (order.bits ++ rest) := by
  unfold Reads.pictureOrder
  simp only [ue_ofSource, bit_ofSource, se_ofSource, outcome_bind_eq_iff, outcome_readUe_eq_ok_iff]
  constructor
  · rintro ⟨n, _, ⟨hn, rfl⟩, type, _, ⟨htype, rfl⟩, h⟩
    match type, htype, h with
    | 0, htype, h =>
      simp only [outcome_bind_eq_iff, outcome_readUe_eq_ok_iff, outcome_pure, Prod.mk.injEq] at h
      obtain ⟨log2MaxLsb, _, ⟨hlsb, rfl⟩, -, rfl⟩ := h
      exact ⟨n, .lsb log2MaxLsb, hn, hlsb, by simp [OrderElements.bits]⟩
    | 1, htype, h =>
      simp only [outcome_bind_eq_iff, outcome_readUe_eq_ok_iff, outcome_readSe_eq_ok_iff,
        outcome_readBit_eq_ok_iff, outcome_signed_eq_ok_iff] at h
      obtain ⟨zero, _, rfl, nonRef, _, ⟨hnonRef, rfl⟩, topToBottom, _, ⟨htopToBottom, rfl⟩, _, _,
        ⟨hcycle, rfl⟩, values, rfl, hvalues, rfl⟩ := h
      exact ⟨n, .cycle zero nonRef topToBottom values, hn, ⟨hnonRef, htopToBottom, hcycle, hvalues⟩,
        by simp [OrderElements.bits, signedGolomb]⟩
    | type + 2, htype, h =>
      cases h
      exact ⟨n, .other (type + 2), hn, ⟨Nat.le_add_left 2 type, htype⟩, rfl⟩
  · rintro ⟨n, order, hn, horder, rfl⟩
    refine ⟨n, _, ⟨hn, rfl⟩, ?_⟩
    cases order with
    | lsb log2MaxLsb =>
      simp only [OrderElements.bits, List.append_assoc]
      refine ⟨0, _, ⟨Nat.zero_le _, rfl⟩, ?_⟩
      simp only [outcome_bind_eq_iff, outcome_readUe_eq_ok_iff]
      exact ⟨log2MaxLsb, _, ⟨horder, rfl⟩, rfl⟩
    | cycle zero nonRef topToBottom values =>
      obtain ⟨hnonRef, htopToBottom, hcycle, hvalues⟩ := horder
      simp only [OrderElements.bits, List.append_assoc, List.cons_append]
      refine ⟨1, _, ⟨by decide, rfl⟩, ?_⟩
      simp only [outcome_bind_eq_iff, outcome_readUe_eq_ok_iff, outcome_readSe_eq_ok_iff,
        outcome_readBit_eq_ok_iff, outcome_signed_eq_ok_iff]
      exact ⟨_, _, rfl, _, _, ⟨hnonRef, rfl⟩, _, _, ⟨htopToBottom, rfl⟩, _, _, ⟨hcycle, rfl⟩, values,
        rfl, hvalues, rfl⟩
    | other type =>
      obtain ⟨htwo, htype⟩ := horder
      obtain ⟨type, rfl⟩ : ∃ t, type = t + 2 := ⟨type - 2, by omega⟩
      exact ⟨type + 2, _, ⟨htype, rfl⟩, rfl⟩

lemma outcome_crop_eq_ok_iff {cropping : Crop} :
    outcome (ofSource _).crop bits = (.ok cropping, rest) ↔
      ∃ c : Option Crop, (∀ x ∈ c, x.WellFormed) ∧ c.getD {} = cropping ∧
        bits = optional Crop.bits c ++ rest := by
  unfold Reads.crop
  simp only [bit_ofSource, ue_ofSource, outcome_bind_eq_iff, outcome_readBit_eq_ok_iff]
  constructor
  · rintro ⟨b, _, rfl, h⟩
    cases b with
    | false =>
      cases h
      exact ⟨none, fun _ h => (by cases h), rfl, rfl⟩
    | true =>
      rw [if_pos rfl] at h
      simp only [outcome_bind_eq_iff, outcome_readUe_eq_ok_iff, outcome_pure, Prod.mk.injEq] at h
      obtain ⟨left, _, ⟨hleft, rfl⟩, right, _, ⟨hright, rfl⟩, top, _, ⟨htop, rfl⟩, bottom, _,
        ⟨hbottom, rfl⟩, heq, rfl⟩ := h
      cases heq
      refine ⟨some ⟨left, right, top, bottom⟩, ?_, rfl, by simp [optional, Crop.bits]⟩
      rintro _ ⟨⟩
      exact ⟨hleft, hright, htop, hbottom⟩
  · rintro ⟨_ | c, hc, rfl, rfl⟩
    · exact ⟨false, rest, rfl, rfl⟩
    · obtain ⟨hleft, hright, htop, hbottom⟩ := hc c rfl
      refine ⟨true, c.bits ++ rest, rfl, ?_⟩
      rw [if_pos rfl]
      simp only [outcome_bind_eq_iff, outcome_readUe_eq_ok_iff, Crop.bits, List.append_assoc]
      exact ⟨_, _, ⟨hleft, rfl⟩, _, _, ⟨hright, rfl⟩, _, _, ⟨htop, rfl⟩, _, _, ⟨hbottom, rfl⟩, rfl⟩

/-! ## Reading the set -/

/-- The fields of a set are read just from a set that is written. -/
theorem outcome_readFields_eq_ok_iff {f : Fields} :
    outcome readFields bits = (.ok f, rest) ↔
      ∃ x : Elements, x.WellFormed ∧ x.fields = f ∧ bits = x.bits ++ rest := by
  simp only [readFields, Reads.fields, Reads.fieldsBehind, byte_ofSource, ue_ofSource, bit_ofSource,
    outcome_bind_eq_iff, outcome_header_eq_ok_iff, outcome_readBits_eq_ok_iff,
    outcome_readUe_eq_ok_iff, outcome_readBit_eq_ok_iff,
    outcome_chromaFormat_eq_ok_iff, outcome_pictureOrder_eq_ok_iff,
    outcome_frameMbsOnly_eq_ok_iff, outcome_crop_eq_ok_iff, outcome_pure, Prod.mk.injEq]
  constructor
  · rintro ⟨⟨⟩, _, ⟨header, hheader, htype, rfl⟩, profile, _, ⟨-, hprofile, rfl⟩, constraint, _,
      ⟨-, hconstraint, rfl⟩, level, _, ⟨-, hlevel, rfl⟩, id, _, ⟨hid, rfl⟩, _, _,
      ⟨chroma, hsome, hchroma, rfl, rfl⟩, ⟨⟩, _, ⟨log2MaxFrameNum, order, hlog2, horder, rfl⟩,
      maxRefFrames, _, ⟨hmaxRef, rfl⟩, gaps, _, rfl, widthInMbs, _, ⟨hwidth, rfl⟩, heightInMapUnits,
      _, ⟨hheight, rfl⟩, _, _, ⟨adaptive, rfl, rfl⟩, direct8x8, _, rfl, _, _,
      ⟨crop, hcrop, rfl, rfl⟩, h, rfl⟩
    cases h
    exact ⟨⟨header, profile, constraint, level, id, chroma, log2MaxFrameNum, order, maxRefFrames, gaps,
        widthInMbs, heightInMapUnits, adaptive, direct8x8, crop⟩,
      ⟨hheader, htype, hprofile, hconstraint, hlevel, hid, hsome, hchroma, hlog2, horder, hmaxRef,
        hwidth, hheight, hcrop⟩, rfl, by simp [Elements.bits, Elements.frameMbsOnly]⟩
  · rintro ⟨x, hx, rfl, rfl⟩
    simp only [Elements.bits, List.append_assoc, List.cons_append]
    exact ⟨(), _, ⟨x.header, hx.header, hx.type, rfl⟩, _, _, ⟨by decide, hx.profile, rfl⟩, _, _,
      ⟨by decide, hx.constraint, rfl⟩, _, _, ⟨by decide, hx.level, rfl⟩, _, _, ⟨hx.id, rfl⟩, _, _,
      ⟨x.chroma, hx.hasChroma, hx.chroma, rfl, rfl⟩, (), _, ⟨_, x.order, hx.log2MaxFrameNum, hx.order,
      rfl⟩, _, _, ⟨hx.maxRefFrames, rfl⟩, _, _, rfl, _, _, ⟨hx.widthInMbs, rfl⟩, _, _,
      ⟨hx.heightInMapUnits, rfl⟩, _, _, ⟨x.adaptiveFrameField, rfl, rfl⟩, _, _, rfl, _, _,
      ⟨x.crop, hx.crop, rfl, rfl⟩, rfl, rfl⟩

/-- A set that is written is read: it says what its elements say, and what is behind it is left. -/
theorem outcome_read_bits {x : Elements} (h : x.WellFormed) (rest : List Bool) :
    outcome read (x.bits ++ rest) = (x.fields.describe, rest) := by
  rw [read, outcome_bind, outcome_readFields_eq_ok_iff.2 ⟨x, h, rfl, rfl⟩]
  rfl

/-- What is read is a set that is written. -/
theorem exists_elements_of_read {sps : Sps} (h : outcome read bits = (.ok sps, rest)) :
    ∃ x : Elements, x.WellFormed ∧ bits = x.bits ++ rest := by
  obtain ⟨f, rest', hf, h⟩ := outcome_bind_eq_iff.1 h
  obtain ⟨-, rfl⟩ := Prod.mk.inj h
  obtain ⟨x, hx, -, rfl⟩ := outcome_readFields_eq_ok_iff.1 hf
  exact ⟨x, hx, rfl⟩

end

/-! ## Reading from other sources -/

section

variable {σ τ : Type} [BitSource σ] [BitSource τ] {aside : MediaError → Prop} {R : σ → τ → Prop}

/-- The fields are read from a source as from one that it simulates. -/
lemma tracks_readFields (h : Simulates aside R) : Tracks aside R readFields readFields :=
  (tracked_ofSource h).fields

/-- A set is read from a source as from one that it simulates. -/
lemma tracks_read (h : Simulates aside R) : Tracks aside R read read :=
  (tracks_readFields h).bind fun f => .liftM f.describe

/-- A set is read from the bits that are left. -/
theorem follows_read [LawfulBitSource σ] : Follows Left (read : Read σ Sps) read :=
  follows_iff_tracks.2 (tracks_read simulates_left)

end

/-! ## Parsing escaped units -/

section

variable {nal : Bytes} {sps : Sps}

/-- An escaped unit begins with the elements of a well-formed set. -/
def Begins (x : Elements) (nal : Bytes) : Prop :=
  x.WellFormed ∧ x.bits <+: ofBytes (Nal.unescape nal)

/-- A unit is parsed by reading its payload. -/
lemma parse_eq (nal : Bytes) : parse nal = (outcome read (ofBytes (Nal.unescape nal))).1 := by
  have hleft : Left ({ rest := nal } : RbspCursor) (ofBytes (Nal.unescape nal)) :=
    ⟨Nat.succ_pos 7, (RbspCursor.left_new nal).symm⟩
  exact (follows_read _ _ hleft).1

/-- A unit that begins with a set is parsed as what the set says. -/
theorem parse_of_begins {x : Elements} (h : Begins x nal) : parse nal = x.fields.describe := by
  obtain ⟨hx, rest, hrest⟩ := h
  rw [parse_eq, ← hrest, outcome_read_bits hx]

/-- What is accepted begins with a set. -/
theorem exists_begins_of_parse (h : parse nal = .ok sps) : ∃ x, Begins x nal := by
  rw [parse_eq] at h
  rcases hread : outcome read (ofBytes (Nal.unescape nal)) with ⟨r, rest⟩
  rw [hread] at h
  cases h
  obtain ⟨x, hx, hbits⟩ := exists_elements_of_read hread
  exact ⟨x, hx, rest, hbits.symm⟩

end

end LiveMedia.Avc.Sps
