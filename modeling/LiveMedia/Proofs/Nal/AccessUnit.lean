import LiveMedia.Nal.AccessUnit
import LiveMedia.Proofs.Nal.Consistent
import LiveMedia.Proofs.Nal.RoundTrip

set_option autoImplicit false

/-!
# Access units between start codes

An access unit that has got start codes for its lengths is a framed run of its units, those of the
configuration in front included. Putting these in front makes no keyframe of an access unit, since
they are put there only if it is one already.

## Main definitions

* `LiveMedia.Nal.AccessUnit.Framed` — the access unit is a framed run with the right mark.

## Main results

* `LiveMedia.Nal.AccessUnit.framed_of_ofLengthPrefixed` — what the rewriting leaves.
* `LiveMedia.Nal.AccessUnit.Framed.scan_eq_iff` — when a scan finds the units of the index.
-/

namespace LiveMedia.Nal.AccessUnit

variable {kind : UnitKind} {width : PrefixWidth} {sets nals : List Bytes} {data : Bytes}
  {u : AccessUnit}

/-- The access unit is a run of units behind four-byte start codes, and it is marked as a keyframe
just if one of them is. -/
structure Framed (kind : UnitKind) (u : AccessUnit) : Prop where
  framed : ∃ nals, (Framing.startCode .long).frame nals = ⟨u.payload, u.index⟩
  keyframe : u.keyframe = (u.index.units u.payload).any kind.isKeyframe

/-- A unit is put in front only of units with a keyframe among them. -/
lemma any_isKeyframe_injectedSets (kind : UnitKind) (sets nals : List Bytes) :
    (injectedSets kind sets nals ++ nals).any kind.isKeyframe = nals.any kind.isKeyframe := by
  rw [List.any_append, injectedSets]
  cases hkey : nals.any kind.isKeyframe with
  | false => simp
  | true => simp

/-- Lengths are rewritten if the units behind them can be read. -/
lemma ofLengthPrefixed_eq_ok_iff : ofLengthPrefixed kind width sets data = .ok u ↔
    ∃ nals, readLengthPrefixed width data = .ok nals ∧
      ⟨((Framing.startCode .long).frame (injectedSets kind sets nals ++ nals)).data,
        ((Framing.startCode .long).frame (injectedSets kind sets nals ++ nals)).index,
        nals.any kind.isKeyframe⟩ = u := by
  rw [ofLengthPrefixed]
  cases readLengthPrefixed width data with
  | error e => simp [bind, Except.bind]
  | ok nals => simp [bind, Except.bind, pure, Except.pure]

/-- What is left of lengths is a framed run. -/
lemma framed_of_ofLengthPrefixed (h : ofLengthPrefixed kind width sets data = .ok u) :
    u.Framed kind := by
  obtain ⟨nals, -, rfl⟩ := ofLengthPrefixed_eq_ok_iff.1 h
  refine ⟨⟨injectedSets kind sets nals ++ nals, rfl⟩, ?_⟩
  rw [Framing.units_frame, any_isKeyframe_injectedSets]

namespace Framed

/-- The index of a framed run is consistent with its payload. -/
lemma consistent (h : u.Framed kind) : u.index.Consistent u.payload.length := by
  obtain ⟨nals, hnals⟩ := h.framed
  have hconsistent := (Framing.startCode .long).consistent_frame nals
  rwa [hnals] at hconsistent

/-- **A scan finds the units of the index just if none of them holds a start code.**

**Proof sketch.** Units without a start code are found as they were put (`scan_frame`). The other
way round, what a scan finds holds no start code. -/
lemma scan_eq_iff (h : u.Framed kind) :
    u.index = scan u.payload ↔ ∀ nal ∈ u.index.units u.payload, CodeFree nal := by
  obtain ⟨nals, hnals⟩ := h.framed
  constructor
  · intro hscan nal hnal
    rw [hscan] at hnal
    exact (of_mem_units_scan hnal).1
  · intro hfree
    have hunits := (Framing.startCode .long).units_frame nals
    rw [hnals] at hunits
    have hscan : scan ((Framing.startCode .long).frame nals).data =
        ((Framing.startCode .long).frame nals).index := by
      apply scan_frame
      rwa [← hunits]
    rw [hnals] at hscan
    exact hscan.symm

end Framed

end LiveMedia.Nal.AccessUnit
