import LiveMedia.Avc.Sps
import LiveMedia.Proofs.Bits.Source

set_option autoImplicit false

/-!
# Sequence parameter sets over any reads

The syntax of a sequence parameter set is written over any reads of bits, bytes and values: what
holds of the reads and of the step between scales holds of the set.

## Main definitions

* `LiveMedia.Avc.Sps.Reads.Tracked`, `LiveMedia.Avc.Sps.Reads.FailOnly` — reads that track others,
  and reads that fail with certain errors only.

## Main results

* `LiveMedia.Avc.Sps.Reads.Tracked.fields` — over reads that track others.
* `LiveMedia.Avc.Sps.Reads.tracked_ofSource` — over the reads of a source that simulates another one.
* `LiveMedia.Avc.Sps.Reads.FailOnly.fields` — over reads that fail with certain errors only.
-/

namespace LiveMedia.Avc.Sps

open Bits

namespace Reads

/-! ## The reads of a bit source -/

section

variable {σ : Type} [BitSource σ]

@[simp] lemma bit_ofSource : (ofSource σ).bit = readBit := rfl

@[simp] lemma skipBit_ofSource : (ofSource σ).skipBit = skipBits 1 := rfl

@[simp] lemma byte_ofSource : (ofSource σ).byte = readBits 8 := rfl

@[simp] lemma ue_ofSource : (ofSource σ).ue = readUe := rfl

@[simp] lemma se_ofSource : (ofSource σ).se = readSe := rfl

/-- The sum behind a scale fits, or it is too large. -/
lemma scale_ofSource (last delta : Int) : (ofSource σ).scale last delta =
    if last + delta + 256 < scaleLimit then .ok ((last + delta + 256) % 256)
    else .error .overflow := by
  dsimp only [ofSource, scaleSum]
  split <;> rfl

/-- The next scale is the low byte of the sum, if the sum fits. -/
lemma scale_ofSource_eq_ok_iff {last delta scale : Int} :
    (ofSource σ).scale last delta = .ok scale ↔
      ∃ sum, scaleSum last delta = .ok sum ∧ sum % 256 = scale := by
  dsimp only [ofSource]
  cases scaleSum last delta with
  | error e =>
    constructor
    · intro h
      cases h
    · rintro ⟨_, ⟨⟩, -⟩
  | ok sum =>
    constructor
    · intro h
      cases h
      exact ⟨sum, rfl, rfl⟩
    · rintro ⟨_, ⟨⟩, rfl⟩
      rfl

end

/-! ## Reads that track others -/

section

variable {σ τ : Type} {aside : MediaError → Prop} {R : σ → τ → Prop} {Delta Scale : Int → Prop}
  {r : Reads σ} {r' : Reads τ}

/-- Reads track others, and so does the step between scales: for the deltas that can be read and the
scales that can be reached from the first one. -/
structure Tracked (aside : MediaError → Prop) (R : σ → τ → Prop) (Delta Scale : Int → Prop)
    (r : Reads σ) (r' : Reads τ) : Prop where
  bit : Tracks aside R r.bit r'.bit
  skipBit : Tracks aside R r.skipBit r'.skipBit
  byte : Tracks aside R r.byte r'.byte
  ue : Tracks aside R r.ue r'.ue
  se : Tracks aside R r.se r'.se
  delta : Returns Delta r.se
  scale {last delta : Int} (hlast : Scale last) (hdelta : Delta delta) :
    Tracks aside R (liftM (r.scale last delta) : Read σ Int) (liftM (r'.scale last delta))
  first : Scale 8
  next {last delta scale : Int} (hlast : Scale last) (hdelta : Delta delta)
    (hscale : r.scale last delta = .ok scale) (hne : scale ≠ 0) : Scale scale

namespace Tracked

lemma scalingList (h : Tracked aside R Delta Scale r r') (size : Nat) {last : Int}
    (hlast : Scale last) (next : Int) :
    Tracks aside R (r.scalingList size last next) (r'.scalingList size last next) := by
  induction size generalizing last next with
  | zero => exact .pure _
  | succ size ih =>
    refine .ite (.pure _) (h.se.bind_of_post h.delta fun delta hdelta => ?_)
    refine (h.scale hlast hdelta).bind_of_post
      (P := fun scale => r.scale last delta = .ok scale) (fun _ _ h => h) fun scale hscale => ih ?_ _
    split
    · exact hlast
    · next hne => exact h.next hlast hdelta hscale hne

lemma scalingLists (h : Tracked aside R Delta Scale r r') (i count : Nat) :
    Tracks aside R (r.scalingLists i count) (r'.scalingLists i count) := by
  induction count generalizing i with
  | zero => exact .pure _
  | succ count ih =>
    exact h.bit.bind fun _ => .ite ((h.scalingList _ h.first _).bind fun _ => ih _) (ih _)

lemma signed (h : Tracked aside R Delta Scale r r') (count : Nat) :
    Tracks aside R (r.signed count) (r'.signed count) := by
  induction count with
  | zero => exact .pure _
  | succ count ih => exact h.se.bind fun _ => ih

lemma header (h : Tracked aside R Delta Scale r r') : Tracks aside R r.header r'.header :=
  h.byte.bind fun _ => .ite (.throw _) (.ite (.throw _) (.pure _))

lemma chroma (h : Tracked aside R Delta Scale r r') : Tracks aside R r.chroma r'.chroma := by
  refine h.ue.bind fun f => .ite (h.skipBit.bind fun _ => ?_) ?_
  -- with or without the flag of separate planes, the same elements follow
  all_goals
    exact h.ue.bind fun _ => h.ue.bind fun _ => h.bit.bind fun _ => h.bit.bind fun _ =>
      .ite ((h.scalingLists _ _).bind fun _ => .pure _) (.pure _)

lemma pictureOrder (h : Tracked aside R Delta Scale r r') :
    Tracks aside R r.pictureOrder r'.pictureOrder := by
  refine h.ue.bind fun _ => h.ue.bind fun type => ?_
  match type with
  | 0 => exact h.ue.bind fun _ => .pure _
  | 1 =>
    exact h.bit.bind fun _ => h.se.bind fun _ => h.se.bind fun _ => h.ue.bind fun cycle =>
      h.signed cycle
  | _ + 2 => exact .pure _

lemma frameMbsOnly (h : Tracked aside R Delta Scale r r') :
    Tracks aside R r.frameMbsOnly r'.frameMbsOnly :=
  h.bit.bind fun _ => .ite (.pure _) (h.bit.bind fun _ => .pure _)

lemma crop (h : Tracked aside R Delta Scale r r') : Tracks aside R r.crop r'.crop :=
  h.bit.bind fun _ =>
    .ite (h.ue.bind fun _ => h.ue.bind fun _ => h.ue.bind fun _ => h.ue.bind fun _ => .pure _)
      (.pure _)

/-- A set over reads that track others is read as over those. -/
theorem fields (h : Tracked aside R Delta Scale r r') : Tracks aside R r.fields r'.fields :=
  h.header.bind fun _ => h.byte.bind fun _ => h.byte.bind fun _ => h.byte.bind fun _ =>
    h.ue.bind fun _ => (Tracks.ite h.chroma (.pure 1)).bind fun _ => h.pictureOrder.bind fun _ =>
      h.ue.bind fun _ => h.bit.bind fun _ => h.ue.bind fun _ => h.ue.bind fun _ =>
        h.frameMbsOnly.bind fun _ => h.bit.bind fun _ => h.crop.bind fun _ => .pure _

end Tracked

/-- The reads of a bit source track those of a source that it simulates. -/
lemma tracked_ofSource [BitSource σ] [BitSource τ] (h : Simulates aside R) :
    Tracked aside R (fun _ => True) (fun _ => True) (ofSource σ) (ofSource τ) where
  bit := h.readBit
  skipBit := h.skipBits 1
  byte := h.readBits 8
  ue := h.readUe
  se := h.readSe
  delta _ _ _ := trivial
  scale _ _ := .liftM _
  first := trivial
  next _ _ _ _ := trivial

end

/-! ## Reads that fail with certain errors only -/

section

variable {σ : Type} {P : MediaError → Prop} {r : Reads σ}

/-- Reads fail with certain errors only, which those of the header byte belong to. -/
structure FailOnly (P : MediaError → Prop) (r : Reads σ) : Prop where
  bit : FailsOnly P r.bit
  skipBit : FailsOnly P r.skipBit
  byte : FailsOnly P r.byte
  ue : FailsOnly P r.ue
  se : FailsOnly P r.se
  forbiddenBit : P (.invalid .forbiddenBit)
  notSps : P (.invalid .notSps)

namespace FailOnly

lemma signed (h : FailOnly P r) (count : Nat) : FailsOnly P (r.signed count) := by
  induction count with
  | zero => exact .pure _
  | succ count ih => exact h.se.bind fun _ => ih

lemma header (h : FailOnly P r) : FailsOnly P r.header :=
  h.byte.bind fun _ => .ite (.throw h.forbiddenBit) (.ite (.throw h.notSps) (.pure _))

lemma pictureOrder (h : FailOnly P r) : FailsOnly P r.pictureOrder := by
  refine h.ue.bind fun _ => h.ue.bind fun type => ?_
  match type with
  | 0 => exact h.ue.bind fun _ => .pure _
  | 1 =>
    exact h.bit.bind fun _ => h.se.bind fun _ => h.se.bind fun _ => h.ue.bind fun cycle =>
      h.signed cycle
  | _ + 2 => exact .pure _

lemma frameMbsOnly (h : FailOnly P r) : FailsOnly P r.frameMbsOnly :=
  h.bit.bind fun _ => .ite (.pure _) (h.bit.bind fun _ => .pure _)

lemma crop (h : FailOnly P r) : FailsOnly P r.crop :=
  h.bit.bind fun _ =>
    .ite (h.ue.bind fun _ => h.ue.bind fun _ => h.ue.bind fun _ => h.ue.bind fun _ => .pure _)
      (.pure _)

/-- Behind the chroma format there is no scaling list. -/
lemma fieldsBehind (h : FailOnly P r) (profile constraint level id chromaFormatIdc : Nat) :
    FailsOnly P (r.fieldsBehind profile constraint level id chromaFormatIdc) :=
  h.pictureOrder.bind fun _ => h.ue.bind fun _ => h.bit.bind fun _ => h.ue.bind fun _ =>
    h.ue.bind fun _ => h.frameMbsOnly.bind fun _ => h.bit.bind fun _ => h.crop.bind fun _ => .pure _

variable (hscale : ∀ last delta e, r.scale last delta = .error e → P e)

include hscale

lemma scalingList (h : FailOnly P r) (size : Nat) (last next : Int) :
    FailsOnly P (r.scalingList size last next) := by
  induction size generalizing last next with
  | zero => exact .pure _
  | succ size ih =>
    exact .ite (.pure _) (h.se.bind fun delta => .bind (.liftM (hscale last delta)) fun _ => ih _ _)

lemma scalingLists (h : FailOnly P r) (i count : Nat) : FailsOnly P (r.scalingLists i count) := by
  induction count generalizing i with
  | zero => exact .pure _
  | succ count ih =>
    exact h.bit.bind fun _ => .ite ((h.scalingList hscale _ _ _).bind fun _ => ih _) (ih _)

lemma chroma (h : FailOnly P r) : FailsOnly P r.chroma := by
  refine h.ue.bind fun f => .ite (h.skipBit.bind fun _ => ?_) ?_
  all_goals
    exact h.ue.bind fun _ => h.ue.bind fun _ => h.bit.bind fun _ => h.bit.bind fun _ =>
      .ite ((h.scalingLists hscale _ _).bind fun _ => .pure _) (.pure _)

/-- If the step between scales fails with these errors only, so does the set. -/
theorem fields (h : FailOnly P r) : FailsOnly P r.fields :=
  h.header.bind fun _ => h.byte.bind fun _ => h.byte.bind fun _ => h.byte.bind fun _ =>
    h.ue.bind fun _ => (FailsOnly.ite (h.chroma hscale) (.pure 1)).bind fun _ =>
      h.fieldsBehind _ _ _ _ _

end FailOnly

end

end Reads

end LiveMedia.Avc.Sps
