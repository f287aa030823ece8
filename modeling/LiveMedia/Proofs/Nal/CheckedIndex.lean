import LiveMedia.Nal.Reframe
import LiveMedia.Proofs.Bits.Words
import LiveMedia.Proofs.Nal.Consistent

set_option autoImplicit false

/-!
# Indexes from callers

An index that a caller sends along is checked before its ranges are used. The end of a range is the
sum of two machine words, which need not fit in a word. As long as the check meets no such sum, it
takes just the consistent indexes, and every range of one that is taken is used. At the first sum
that does not fit, a build for development stops. A release goes on with the low bits of the sum,
and if it takes the index, it leaves the range out without a word.

## Main definitions

* `LiveMedia.Nal.FragmentIndex.Holds` — the ranges hold just these units.
* `LiveMedia.Nal.FragmentIndex.Overflows` — the check meets an end that no machine word holds.
* `LiveMedia.Nal.FragmentIndex.checkFromOn`, `LiveMedia.Nal.indexedUnitsOn` — the check and the
  units on machine words.
* `LiveMedia.Nal.lengthPrefixedOfFragmentsOn`, `LiveMedia.Nal.insertNalOn` — the functions that take
  an index, on machine words.
* `LiveMedia.Nal.AnswersIndex` — how the two builds answer an index.

## Main results

* `LiveMedia.Nal.FragmentIndex.checkConsistent_eq_overflow_iff`,
  `LiveMedia.Nal.FragmentIndex.checkConsistent_eq_false_iff` — what stops the check, and what it
  refuses.
* `LiveMedia.Nal.index_answered` — the answers to every index.
* `LiveMedia.Nal.index_not_refused` — an index that is neither taken nor refused.
-/

namespace LiveMedia.Nal

namespace FragmentIndex

variable {index : FragmentIndex} {size start : Nat} {f : Fragment}

/-! ## Ranges one behind the other -/

/-- Of ranges that are in order it is enough that neighbours are. -/
lemma sorted_iff_isChain : (index.Pairwise fun f g => f.stop ≤ g.offset) ↔
    index.IsChain fun f g => f.stop ≤ g.offset := by
  have htrans : ∀ f g h : Fragment, f.stop ≤ g.offset → g.stop ≤ h.offset → f.stop ≤ h.offset := by
    intro f g h hfg hgh
    have hg : g.offset ≤ g.stop := Nat.le_add_right _ _
    omega
  have : IsTrans Fragment fun f g => f.stop ≤ g.offset := ⟨htrans⟩
  exact List.isChain_iff_pairwise.symm

/-- The ranges lie inside the payload, and hold just these units. -/
def Holds (index : FragmentIndex) (data : Bytes) (nals : List Bytes) : Prop :=
  (index.map fun f => Bytes.slice? data f.offset f.length) = nals.map some

/-- Ranges hold their units only. -/
lemma Holds.unique {data : Bytes} {nals nals' : List Bytes} (h : index.Holds data nals)
    (h' : index.Holds data nals') : nals = nals' :=
  (List.map_inj_right fun _ _ => Option.some.inj).1 (h.symm.trans h')

/-- Each range of a consistent index holds a unit. -/
lemma Consistent.holds_units {data : Bytes} (h : index.Consistent data.length) :
    index.Holds data (index.units data) := by
  induction index with
  | nil => rfl
  | cons f index ih =>
    obtain ⟨hstop, -, hrest⟩ := consistent_cons_iff.1 h
    have hslice : Bytes.slice? data f.offset f.length = some ((data.drop f.offset).take f.length) :=
      if_pos hstop
    have hunits : units (f :: index) data =
        (data.drop f.offset).take f.length :: units index data :=
      List.filterMap_cons_some hslice
    rw [Holds, hunits, List.map_cons, List.map_cons, hslice, ih hrest]

/-- It has the length that is stated. -/
lemma Holds.map_length {data : Bytes} {nals : List Bytes} (h : index.Holds data nals) :
    nals.map List.length = index.map Fragment.length := by
  induction index generalizing nals with
  | nil =>
    obtain rfl : nals = [] := List.map_eq_nil_iff.1 h.symm
    rfl
  | cons f index ih =>
    cases nals with
    | nil => cases h
    | cons nal nals =>
      obtain ⟨hslice, hrest⟩ := List.cons.inj h
      have hlength : nal.length = f.length := Bytes.length_of_slice? hslice
      rw [List.map_cons, List.map_cons, hlength, ih hrest]

/-! ## What the check finds -/

/-- The check meets an end that no machine word holds: the range lies behind the ranges before it,
and these are consistent. -/
def Overflows (index : FragmentIndex) (size : Nat) : Prop :=
  ∃ before f rest, index = before ++ f :: rest ∧ Consistent before size ∧
    (∀ g ∈ before, g.stop ≤ f.offset) ∧ addressSpace ≤ f.stop

/-- The check stops at the first range, or at one of the others. -/
lemma checkFrom_cons_eq_overflow_iff :
    checkFrom size start (f :: index) = .error .overflow ↔ start ≤ f.offset ∧
      (addressSpace ≤ f.stop ∨ f.stop ≤ size ∧ checkFrom size f.stop index = .error .overflow) := by
  rw [checkFrom, Fragment.checkedStop]
  by_cases hstart : f.offset < start
  · rw [if_pos hstart]
    exact ⟨fun h => (by cases h), fun h => absurd h.1 (Nat.not_le.2 hstart)⟩
  rw [if_neg hstart]
  by_cases hfits : f.stop < addressSpace
  · rw [if_pos hfits]
    show (if size < f.stop then _ else _) = _ ↔ _
    by_cases hstop : size < f.stop
    · rw [if_pos hstop]
      refine ⟨fun h => (by cases h), fun h => ?_⟩
      omega
    · rw [if_neg hstop]
      have hstart' := Nat.not_lt.1 hstart
      have hstop' := Nat.not_lt.1 hstop
      simp [hstart', hstop', Nat.not_le.2 hfits]
  · rw [if_neg hfits]
    exact ⟨fun _ => ⟨Nat.not_lt.1 hstart, .inl (Nat.not_lt.1 hfits)⟩, fun _ => rfl⟩

/-- The check of the ranges behind `start` stops at an end that no machine word holds.

**Proof sketch.** Induction along the ranges. A range in front of the one that overflows is passed
just if it lies behind `start` and inside the payload, and the others then lie behind it. -/
lemma checkFrom_eq_overflow_iff (hsize : size < addressSpace) :
    checkFrom size start index = .error .overflow ↔ ∃ before f rest, index = before ++ f :: rest ∧
      checkFrom size start before = .ok true ∧ start ≤ f.offset ∧
      (∀ g ∈ before, g.stop ≤ f.offset) ∧ addressSpace ≤ f.stop := by
  induction index generalizing start with
  | nil =>
    constructor
    · nofun
    · rintro ⟨before, f, rest, hnil, -⟩
      simp at hnil
  | cons f index ih =>
    rw [checkFrom_cons_eq_overflow_iff, ih]
    constructor
    · rintro ⟨hstart, hlarge | ⟨hstop, before, g, rest, rfl, hbefore, hg, hbehind, hlarge⟩⟩
      · exact ⟨[], f, index, rfl, rfl, hstart, nofun, hlarge⟩
      · have hle : f.offset ≤ f.stop := Nat.le_add_right _ _
        exact ⟨f :: before, g, rest, rfl,
          checkFrom_cons_eq_true_iff.2 ⟨hstart, by omega, hstop, hbefore⟩, by omega,
          List.forall_mem_cons.2 ⟨hg, hbehind⟩, hlarge⟩
    · rintro ⟨_ | ⟨g, before⟩, h, rest, heq, hbefore, hstart, hbehind, hlarge⟩
      · obtain ⟨rfl, rfl⟩ := List.cons.inj heq
        exact ⟨hstart, .inl hlarge⟩
      · obtain ⟨rfl, rfl⟩ := List.cons.inj heq
        obtain ⟨hstart, -, hstop, hbefore⟩ := checkFrom_cons_eq_true_iff.1 hbefore
        obtain ⟨hf, hbehind⟩ := List.forall_mem_cons.1 hbehind
        exact ⟨hstart, .inr ⟨hstop, before, h, rest, rfl, hbefore, hf, hbehind, hlarge⟩⟩

/-- The check of any ranges comes to an answer, or is stopped. -/
lemma checkFrom_cases (size start : Nat) (index : FragmentIndex) :
    checkFrom size start index = .ok true ∨ checkFrom size start index = .ok false ∨
      checkFrom size start index = .error .overflow := by
  induction index generalizing start with
  | nil => exact .inl rfl
  | cons f index ih =>
    rw [checkFrom, Fragment.checkedStop]
    split
    · exact .inr (.inl rfl)
    · split
      · show (if size < f.stop then _ else _) = _ ∨ (if size < f.stop then _ else _) = _ ∨
          (if size < f.stop then _ else _) = _
        split
        · exact .inr (.inl rfl)
        · exact ih f.stop
      · exact .inr (.inr rfl)

/-- **The check is stopped just at an end that no machine word holds**, behind ranges that it has
passed. -/
theorem checkConsistent_eq_overflow_iff (hsize : size < addressSpace) :
    index.checkConsistent size = .error .overflow ↔ index.Overflows size := by
  rw [checkConsistent, checkFrom_eq_overflow_iff hsize]
  constructor
  · rintro ⟨before, f, rest, heq, hbefore, -, hbehind, hlarge⟩
    exact ⟨before, f, rest, heq, (checkConsistent_eq_true_iff hsize).1 hbefore, hbehind, hlarge⟩
  · rintro ⟨before, f, rest, heq, hbefore, hbehind, hlarge⟩
    exact ⟨before, f, rest, heq, (checkConsistent_eq_true_iff hsize).2 hbefore, Nat.zero_le _,
      hbehind, hlarge⟩

/-- **All other indexes are refused.** -/
theorem checkConsistent_eq_false_iff (hsize : size < addressSpace) :
    index.checkConsistent size = .ok false ↔ ¬ index.Consistent size ∧ ¬ index.Overflows size := by
  rw [← checkConsistent_eq_true_iff hsize, ← checkConsistent_eq_overflow_iff hsize]
  rcases checkFrom_cases size 0 index with h | h | h <;> simp [checkConsistent, h]

end FragmentIndex

/-! ## The check and the units on machine words -/

open Bits (Build Word)

namespace Fragment

variable {build : Build} {f : Fragment}

/-- The range is held in machine words. -/
def Held (f : Fragment) : Prop :=
  f.offset < addressSpace ∧ f.length < addressSpace

instance : DecidablePred Held := fun _ =>
  inferInstanceAs (Decidable (_ ∧ _))

/-- The offset just behind the range, in a word of 64 bits. -/
def stopOn (build : Build) (f : Fragment) : Except MediaError Nat :=
  build.natural .u64 f.stop

/-- The bytes of the range, if it does not end before it starts and lies inside the payload. -/
def bytesOn (build : Build) (payload : Bytes) (f : Fragment) :
    Except MediaError (Option Bytes) := do
  let stop ← f.stopOn build
  pure (if f.offset ≤ stop then Bytes.slice? payload f.offset (stop - f.offset) else none)

lemma holds_stop (h : f.stop < addressSpace) : Word.u64.Holds f.stop := by
  unfold addressSpace at h
  exact Word.holds_u64.2 ⟨by omega, by omega⟩

lemma not_holds_stop (h : addressSpace ≤ f.stop) : ¬ Word.u64.Holds f.stop := by
  unfold addressSpace at h
  rw [Word.holds_u64]
  omega

lemma stopOn_of_lt (h : f.stop < addressSpace) : f.stopOn build = .ok f.stop :=
  Build.natural_of_holds (holds_stop h)

/-- A build for development stops at an end that does not fit. -/
lemma stopOn_dev_of_le (h : addressSpace ≤ f.stop) : f.stopOn .dev = .error .overflow := by
  rw [stopOn, Build.natural, Build.result, if_neg (not_holds_stop h)]
  rfl

lemma stopOn_dev (f : Fragment) : f.stopOn .dev = f.checkedStop := by
  unfold checkedStop
  split
  case isTrue h => exact stopOn_of_lt h
  case isFalse h => exact stopOn_dev_of_le (Nat.not_lt.1 h)

/-- A release goes on with its low bits, which lie before the range. -/
lemma stopOn_release_of_le (hheld : f.Held) (h : addressSpace ≤ f.stop) :
    ∃ stop < f.offset, f.stopOn .release = .ok stop := by
  refine ⟨f.stop - addressSpace, ?_, ?_⟩
  · have hlength := hheld.2
    unfold stop at h ⊢
    omega
  · rw [stopOn, Build.natural, Build.result, if_neg (not_holds_stop h)]
    show Except.ok (Word.u64.wrap f.stop).toNat = _
    have hoffset := hheld.1
    have hlength := hheld.2
    rw [Except.ok.injEq]
    unfold addressSpace stop at *
    simp only [Word.wrap, Word.least, Word.count]
    omega

lemma bytesOn_of_lt (payload : Bytes) (h : f.stop < addressSpace) :
    f.bytesOn build payload = .ok (Bytes.slice? payload f.offset f.length) := by
  have hle : f.offset ≤ f.stop := Nat.le_add_right _ _
  have hlength : f.stop - f.offset = f.length := Nat.add_sub_cancel_left _ _
  rw [bytesOn, stopOn_of_lt h]
  show Except.ok (if f.offset ≤ f.stop then _ else _) = _
  rw [if_pos hle, hlength]

/-- In a release a range whose end does not fit holds nothing. -/
lemma bytesOn_release_of_le (payload : Bytes) (hheld : f.Held) (h : addressSpace ≤ f.stop) :
    f.bytesOn .release payload = .ok none := by
  obtain ⟨stop, hstop, heq⟩ := stopOn_release_of_le hheld h
  rw [bytesOn, heq]
  show Except.ok (if f.offset ≤ stop then _ else _) = _
  rw [if_neg (Nat.not_le.2 hstop)]

end Fragment

namespace FragmentIndex

variable {build : Build} {index : FragmentIndex} {size start : Nat} {payload : Bytes}

/-- The check of the ranges behind `start`, on words of 64 bits. -/
def checkFromOn (build : Build) (size : Nat) :
    (start : Nat) → FragmentIndex → Except MediaError Bool
  | _, [] => .ok true
  | start, f :: rest =>
    if f.offset < start then
      .ok false
    else do
      let stop ← f.stopOn build
      if size < stop then .ok false else checkFromOn build size stop rest

/-- The bytes of every range that holds some, on words of 64 bits. -/
def unitsOn (build : Build) (payload : Bytes) : FragmentIndex → Except MediaError (List Bytes)
  | [] => .ok []
  | f :: rest => do
    let unit? ← f.bytesOn build payload
    let units ← unitsOn build payload rest
    pure (unit?.toList ++ units)

/-- For development the ends are summed as they are on numbers. -/
lemma checkFromOn_dev (size start : Nat) (index : FragmentIndex) :
    checkFromOn .dev size start index = checkFrom size start index := by
  induction index generalizing start with
  | nil => rfl
  | cons f index ih =>
    rw [checkFromOn, checkFrom, Fragment.stopOn_dev]
    simp only [ih]

/-- As long as the check is not stopped, the builds do not differ. -/
lemma checkFromOn_of_ne (h : checkFrom size start index ≠ .error .overflow) :
    checkFromOn build size start index = checkFrom size start index := by
  induction index generalizing start with
  | nil => rfl
  | cons f index ih =>
    rw [ne_eq, checkFrom_cons_eq_overflow_iff, not_and_or, not_or, not_and_or] at h
    rw [checkFromOn, checkFrom, Fragment.checkedStop]
    split
    · rfl
    · next hstart =>
      obtain ⟨hfits, hrest⟩ := h.resolve_left (not_not.2 (Nat.not_lt.1 hstart))
      have hfits := Nat.not_le.1 hfits
      rw [if_pos hfits, Fragment.stopOn_of_lt hfits]
      show (if size < f.stop then _ else _) = (if size < f.stop then _ else _)
      split
      · rfl
      · next hstop => exact ih (hrest.resolve_left (not_not.2 (Nat.not_lt.1 hstop)))

/-- A release is not stopped. -/
lemma exists_checkFromOn_release (hheld : ∀ f ∈ index, f.Held) :
    ∃ b, checkFromOn .release size start index = .ok b := by
  induction index generalizing start with
  | nil => exact ⟨true, rfl⟩
  | cons f index ih =>
    obtain ⟨hf, hrest⟩ := List.forall_mem_cons.1 hheld
    have hstop : ∃ stop, f.stopOn .release = .ok stop := by
      rcases Nat.lt_or_ge f.stop addressSpace with h | h
      · exact ⟨_, Fragment.stopOn_of_lt h⟩
      · obtain ⟨stop, -, heq⟩ := Fragment.stopOn_release_of_le hf h
        exact ⟨stop, heq⟩
    obtain ⟨stop, hstop⟩ := hstop
    rw [checkFromOn, hstop]
    split
    · exact ⟨false, rfl⟩
    · show ∃ b, (if size < stop then _ else _) = _
      split
      · exact ⟨false, rfl⟩
      · exact ih hrest

/-- Ranges whose ends fit hold the same bytes in both builds. -/
lemma unitsOn_of_lt (h : ∀ f ∈ index, f.stop < addressSpace) :
    unitsOn build payload index = .ok (units index payload) := by
  induction index with
  | nil => rfl
  | cons f index ih =>
    obtain ⟨hf, hrest⟩ := List.forall_mem_cons.1 h
    rw [unitsOn, Fragment.bytesOn_of_lt payload hf, ih hrest]
    show Except.ok _ = Except.ok _
    unfold units
    rw [List.filterMap_cons]
    cases Bytes.slice? payload f.offset f.length <;> rfl

/-- **A release leaves out the ranges whose ends do not fit.** -/
lemma unitsOn_release (hheld : ∀ f ∈ index, f.Held) :
    unitsOn .release payload index =
      .ok (units (index.filter (·.stop < addressSpace)) payload) := by
  induction index with
  | nil => rfl
  | cons f index ih =>
    obtain ⟨hf, hrest⟩ := List.forall_mem_cons.1 hheld
    rw [unitsOn, ih hrest, List.filter_cons]
    rcases Nat.lt_or_ge f.stop addressSpace with h | h
    · rw [Fragment.bytesOn_of_lt payload h, if_pos (decide_eq_true h)]
      show Except.ok _ = Except.ok _
      unfold units
      rw [List.filterMap_cons]
      cases Bytes.slice? payload f.offset f.length <;> rfl
    · rw [Fragment.bytesOn_release_of_le payload hf h, if_neg (by simpa using h)]
      rfl

end FragmentIndex

/-- The units of a payload, if the index fits it, on words of 64 bits. -/
def indexedUnitsOn (build : Build) (data : Bytes) (index : FragmentIndex) :
    Except MediaError (List Bytes) := do
  if ← index.checkFromOn build data.length 0 then
    index.unitsOn build data
  else
    throw (.invalid .inconsistentFragments)

/-- The units at known places of a payload, behind lengths, on words of 64 bits. -/
def lengthPrefixedOfFragmentsOn (build : Build) (data : Bytes) (index : FragmentIndex) :
    Except MediaError IndexedPayload := do
  let nals ← indexedUnitsOn build data index
  pure (lengthFraming.frame nals)

/-- One more unit in escaped form at the end of a payload, on words of 64 bits. -/
def insertNalOn (build : Build) (data : Bytes) (index : FragmentIndex) (nal : Bytes)
    (target : Format) : Except MediaError IndexedPayload := do
  let framing ← insertFraming index target
  let nals ← indexedUnitsOn build data index
  pure (framing.frame (nals ++ [escape nal]))

/-! ## The units of a caller's index -/

section Units

variable {build : Build} {data nal : Bytes} {index : FragmentIndex} {nals : List Bytes}
  {target : Format}

/-- The answer of the check decides what becomes of the index. -/
lemma indexedUnits_cases (data : Bytes) (index : FragmentIndex) :
    (index.checkConsistent data.length = .ok true ∧
      indexedUnits data index = .ok (index.units data)) ∨
    (index.checkConsistent data.length = .ok false ∧
      indexedUnits data index = .error (.invalid .inconsistentFragments)) ∨
    (index.checkConsistent data.length = .error .overflow ∧
      indexedUnits data index = .error .overflow) := by
  rw [indexedUnits, FragmentIndex.checkConsistent]
  rcases FragmentIndex.checkFrom_cases data.length 0 index with hcheck | hcheck | hcheck
  · rw [hcheck]
    exact .inl ⟨rfl, rfl⟩
  · rw [hcheck]
    exact .inr (.inl ⟨rfl, rfl⟩)
  · rw [hcheck]
    exact .inr (.inr ⟨rfl, rfl⟩)

lemma indexedUnits_eq_ok_iff : indexedUnits data index = .ok nals ↔
    index.checkConsistent data.length = .ok true ∧ index.units data = nals := by
  rcases indexedUnits_cases data index with ⟨hcheck, hunits⟩ | ⟨hcheck, hunits⟩ | ⟨hcheck, hunits⟩
  all_goals simp [hcheck, hunits]

lemma indexedUnits_eq_refused_iff :
    indexedUnits data index = .error (.invalid .inconsistentFragments) ↔
      index.checkConsistent data.length = .ok false := by
  rcases indexedUnits_cases data index with ⟨hcheck, hunits⟩ | ⟨hcheck, hunits⟩ | ⟨hcheck, hunits⟩
  all_goals simp [hcheck, hunits]

lemma indexedUnits_eq_overflow_iff : indexedUnits data index = .error .overflow ↔
    index.checkConsistent data.length = .error .overflow := by
  rcases indexedUnits_cases data index with ⟨hcheck, hunits⟩ | ⟨hcheck, hunits⟩ | ⟨hcheck, hunits⟩
  all_goals simp [hcheck, hunits]

lemma indexedUnits_of_consistent (hdata : data.length < addressSpace)
    (h : index.Consistent data.length) : indexedUnits data index = .ok (index.units data) :=
  indexedUnits_eq_ok_iff.2 ⟨(FragmentIndex.checkConsistent_eq_true_iff hdata).2 h, rfl⟩

/-- The units that are found are those of a consistent index. -/
lemma consistent_of_indexedUnits (h : indexedUnits data index = .ok nals) :
    index.Consistent data.length ∧ index.units data = nals := by
  obtain ⟨hcheck, hunits⟩ := indexedUnits_eq_ok_iff.1 h
  exact ⟨(FragmentIndex.checkFrom_eq_true_iff.1 hcheck).2, hunits⟩

/-- On words as on numbers, as long as the check is not stopped. -/
lemma indexedUnitsOn_of_ne (h : index.checkConsistent data.length ≠ .error .overflow) :
    indexedUnitsOn build data index = indexedUnits data index := by
  rw [indexedUnitsOn, FragmentIndex.checkFromOn_of_ne h, indexedUnits,
    FragmentIndex.checkConsistent]
  rcases FragmentIndex.checkFrom_cases data.length 0 index with hcheck | hcheck | hcheck
  · rw [hcheck]
    have hfits := (FragmentIndex.checkFrom_eq_true_iff.1 hcheck).1
    exact FragmentIndex.unitsOn_of_lt fun f hf => (hfits f hf).2
  · rw [hcheck]
    rfl
  · exact absurd hcheck h

/-- A build for development finds the units that are found on numbers. -/
lemma indexedUnitsOn_dev (data : Bytes) (index : FragmentIndex) :
    indexedUnitsOn .dev data index = indexedUnits data index := by
  by_cases h : index.checkConsistent data.length = .error .overflow
  · rw [indexedUnitsOn, FragmentIndex.checkFromOn_dev, indexedUnits, h]
    rw [FragmentIndex.checkConsistent] at h
    rw [h]
    rfl
  · exact indexedUnitsOn_of_ne h

/-- A release is not stopped, and leaves out the ranges whose ends do not fit. -/
lemma indexedUnitsOn_release (data : Bytes) (hheld : ∀ f ∈ index, f.Held) :
    indexedUnitsOn .release data index = .error (.invalid .inconsistentFragments) ∨
      indexedUnitsOn .release data index =
        .ok (FragmentIndex.units (index.filter (·.stop < addressSpace)) data) := by
  have hcheck : ∃ b, index.checkFromOn .release data.length 0 = .ok b :=
    FragmentIndex.exists_checkFromOn_release hheld
  obtain ⟨b, hb⟩ := hcheck
  rw [indexedUnitsOn, hb]
  cases b with
  | false => exact .inl rfl
  | true => exact .inr (FragmentIndex.unitsOn_release hheld)

lemma lengthPrefixedOfFragmentsOn_eq : lengthPrefixedOfFragmentsOn build data index =
    (indexedUnitsOn build data index).map lengthFraming.frame := by
  rw [lengthPrefixedOfFragmentsOn]
  cases indexedUnitsOn build data index <;> rfl

lemma insertNalOn_eq {framing : Framing} (h : insertFraming index target = .ok framing) :
    insertNalOn build data index nal target =
      (indexedUnitsOn build data index).map fun nals => framing.frame (nals ++ [escape nal]) := by
  rw [insertNalOn, h]
  cases indexedUnitsOn build data index <;> rfl

lemma lengthPrefixedOfFragmentsOn_dev (data : Bytes) (index : FragmentIndex) :
    lengthPrefixedOfFragmentsOn .dev data index = lengthPrefixedOfFragments data index := by
  rw [lengthPrefixedOfFragmentsOn, indexedUnitsOn_dev, lengthPrefixedOfFragments]

lemma insertNalOn_dev (data : Bytes) (index : FragmentIndex) (nal : Bytes) (target : Format) :
    insertNalOn .dev data index nal target = insertNal data index nal target := by
  rw [insertNalOn, indexedUnitsOn_dev, insertNal]

/-- On numbers as on words the units of the index are written. -/
lemma lengthPrefixedOfFragments_eq_map : lengthPrefixedOfFragments data index =
    (indexedUnits data index).map lengthFraming.frame := by
  rw [← lengthPrefixedOfFragmentsOn_dev, lengthPrefixedOfFragmentsOn_eq, indexedUnitsOn_dev]

lemma insertNal_eq_map {framing : Framing} (h : insertFraming index target = .ok framing) :
    insertNal data index nal target =
      (indexedUnits data index).map fun nals => framing.frame (nals ++ [escape nal]) := by
  rw [← insertNalOn_dev, insertNalOn_eq h, indexedUnitsOn_dev]

end Units

/-! ## Answers -/

/-- How the two builds answer an index with a function that writes its units as `emit` says. -/
structure AnswersIndex (data : Bytes) (index : FragmentIndex) (emit : List Bytes → IndexedPayload)
    (answer : Build → Except MediaError IndexedPayload) : Prop where
  /-- The consistent indexes are taken, and all units of theirs are written. -/
  taken : ∀ out, answer .dev = .ok out ↔
    index.Consistent data.length ∧ emit (index.units data) = out
  /-- All others are refused, unless the check meets an end that does not fit in a word. -/
  refused : answer .dev = .error (.invalid .inconsistentFragments) ↔
    ¬ index.Consistent data.length ∧ ¬ index.Overflows data.length
  /-- There it is stopped. -/
  stopped : answer .dev = .error .overflow ↔ index.Overflows data.length
  /-- Otherwise a release answers the same. -/
  agree : answer .release = answer .dev ↔ ¬ index.Overflows data.length
  /-- What a release takes it writes without the ranges whose ends do not fit. -/
  dropped : ∀ out, answer .release = .ok out →
    emit (FragmentIndex.units (index.filter (·.stop < addressSpace)) data) = out

lemma map_eq_ok_iff {units : Except MediaError (List Bytes)} {emit : List Bytes → IndexedPayload}
    {out : IndexedPayload} :
    units.map emit = .ok out ↔ ∃ nals, units = .ok nals ∧ emit nals = out := by
  cases units <;> simp [Except.map]

lemma map_eq_error_iff {units : Except MediaError (List Bytes)}
    {emit : List Bytes → IndexedPayload} {e : MediaError} :
    units.map emit = .error e ↔ units = .error e := by
  cases units <;> simp [Except.map]

/-- Every function of the units of an index answers it so.

**Proof sketch.** For development the units are those on numbers, where the check decides. A release
is never stopped, so it answers the same only where the check is not. -/
lemma answersIndex_map {data : Bytes} {index : FragmentIndex} (hdata : data.length < addressSpace)
    (hheld : ∀ f ∈ index, f.Held) (emit : List Bytes → IndexedPayload) :
    AnswersIndex data index emit fun build => (indexedUnitsOn build data index).map emit := by
  have hrelease := indexedUnitsOn_release data hheld
  have hstopped : (indexedUnitsOn .dev data index).map emit = .error .overflow ↔
      index.Overflows data.length := by
    rw [map_eq_error_iff, indexedUnitsOn_dev, indexedUnits_eq_overflow_iff,
      FragmentIndex.checkConsistent_eq_overflow_iff hdata]
  constructor
  case taken =>
    intro out
    simp [map_eq_ok_iff, indexedUnitsOn_dev, indexedUnits_eq_ok_iff,
      FragmentIndex.checkConsistent_eq_true_iff hdata, and_assoc]
  case refused =>
    rw [map_eq_error_iff, indexedUnitsOn_dev, indexedUnits_eq_refused_iff,
      FragmentIndex.checkConsistent_eq_false_iff hdata]
  case stopped => exact hstopped
  case agree =>
    constructor
    · intro hagree hoverflows
      have hoverflow := hagree.trans (hstopped.2 hoverflows)
      rw [map_eq_error_iff] at hoverflow
      rcases hrelease with heq | heq <;> rw [heq] at hoverflow <;> cases hoverflow
    · intro hoverflows
      rw [← FragmentIndex.checkConsistent_eq_overflow_iff hdata] at hoverflows
      rw [indexedUnitsOn_of_ne hoverflows, indexedUnitsOn_of_ne hoverflows]
  case dropped =>
    intro out hout
    obtain ⟨nals, hnals, hemit⟩ := map_eq_ok_iff.1 hout
    rcases hrelease with heq | heq
    · cases heq.symm.trans hnals
    · obtain rfl := Except.ok.inj (heq.symm.trans hnals)
      exact hemit

/-- The formats in which a unit can be added. -/
lemma exists_insertFraming (index : FragmentIndex) {target : Format}
    (h : target ∈ [.h264AnnexB, .h265AnnexB, .h264Avcc]) :
    ∃ framing, insertFraming index target = .ok framing := by
  simp only [List.mem_cons, List.not_mem_nil, or_false] at h
  rcases h with rfl | rfl | rfl <;> exact ⟨_, rfl⟩

/-- **A caller's index is taken, refused, or stops the program.** Let the payload and the ranges be
held in machine words. The check passes just the indexes of which each range lies behind the one
before it and inside the payload, and each range of such an index holds a unit of its length. The
two functions that take an index write all of these units. They refuse every other index, except
where the check meets an end that does not fit in a word: there a build for development is stopped,
and a release either refuses the index or writes it without the ranges whose ends do not fit.

**Proof sketch.** The check passes just the consistent indexes (`checkConsistent_eq_true_iff`) and
is stopped just at such an end (`checkConsistent_eq_overflow_iff`). Where it is not stopped, the
builds do not differ (`indexedUnitsOn_of_ne`); in a release an end that does not fit is taken for
one before its range, which then holds nothing (`unitsOn_release`). -/
theorem index_answered {data : Bytes} {index : FragmentIndex} (hdata : data.length < addressSpace)
    (hheld : ∀ f ∈ index, f.Held) :
    (index.checkConsistent data.length = .ok true ↔
      (index.IsChain fun f g => f.stop ≤ g.offset) ∧ ∀ f ∈ index, f.stop ≤ data.length) ∧
    (index.checkConsistent data.length = .error .overflow ↔ index.Overflows data.length) ∧
    (index.Consistent data.length →
      index.Holds data (index.units data) ∧
      (index.units data).map List.length = index.map Fragment.length) ∧
    (lengthPrefixedOfFragmentsOn .dev data index = lengthPrefixedOfFragments data index ∧
      AnswersIndex data index lengthFraming.frame (lengthPrefixedOfFragmentsOn · data index)) ∧
    ∀ (nal : Bytes) (target : Format), target ∈ [.h264AnnexB, .h265AnnexB, .h264Avcc] →
      insertNalOn .dev data index nal target = insertNal data index nal target ∧
      ∃ framing, insertFraming index target = .ok framing ∧
        AnswersIndex data index (fun nals => framing.frame (nals ++ [escape nal]))
          (insertNalOn · data index nal target) := by
  refine ⟨?_, FragmentIndex.checkConsistent_eq_overflow_iff hdata,
    fun h => ⟨h.holds_units, h.holds_units.map_length⟩,
    ⟨lengthPrefixedOfFragmentsOn_dev data index, ?_⟩,
    fun nal target htarget => ⟨insertNalOn_dev data index nal target, ?_⟩⟩
  · rw [FragmentIndex.checkConsistent_eq_true_iff hdata, ← FragmentIndex.sorted_iff_isChain]
    exact ⟨fun h => ⟨h.sorted, h.inside⟩, fun h => ⟨h.1, h.2⟩⟩
  · simp only [lengthPrefixedOfFragmentsOn_eq]
    exact answersIndex_map hdata hheld lengthFraming.frame
  · obtain ⟨framing, hframing⟩ := exists_insertFraming index htarget
    refine ⟨framing, hframing, ?_⟩
    simp only [insertNalOn_eq hframing]
    exact answersIndex_map hdata hheld _

/-- Two ranges of one byte, and between them one that ends a byte behind the last address. -/
def wrappingIndex : FragmentIndex :=
  [⟨0, 1⟩, ⟨0xFFFFFFFFFFFFFFFF, 2⟩, ⟨1, 1⟩]

/-- The range in the middle stops a build for development, and is left out by a release. -/
theorem index_answered_wrapping :
    let data : Bytes := [0x41, 0x42, 0x43]
    data.length < addressSpace ∧ (∀ f ∈ wrappingIndex, f.Held) ∧
    wrappingIndex.Overflows data.length ∧
    lengthPrefixedOfFragments data wrappingIndex = .error .overflow ∧
    lengthPrefixedOfFragmentsOn .release data wrappingIndex =
      .ok ⟨[0, 0, 0, 1, 0x41, 0, 0, 0, 1, 0x42], [⟨4, 1⟩, ⟨9, 1⟩]⟩ := by
  intro data
  have hdata : data.length < addressSpace := by decide
  have hheld : ∀ f ∈ wrappingIndex, f.Held := by decide
  obtain ⟨-, hoverflow, -, ⟨hdev, hanswers⟩, -⟩ := index_answered hdata hheld
  have hoverflows : wrappingIndex.Overflows data.length := hoverflow.1 (by decide)
  refine ⟨hdata, hheld, hoverflows, ?_, by decide⟩
  rw [← hdev]
  exact hanswers.stopped.2 hoverflows

/-- **Not every index that does not fit is refused.** -/
theorem index_not_refused :
    ¬ ∀ (data : Bytes) (index : FragmentIndex), data.length < addressSpace →
      (∀ f ∈ index, f.Held) → ¬ index.Consistent data.length →
      lengthPrefixedOfFragments data index = .error (.invalid .inconsistentFragments) := by
  intro h
  have hnot : ¬ FragmentIndex.Consistent wrappingIndex [0x41, 0x42, 0x43].length := by
    intro hconsistent
    exact absurd (hconsistent.inside ⟨0xFFFFFFFFFFFFFFFF, 2⟩ (by decide)) (by decide)
  exact absurd (h [0x41, 0x42, 0x43] wrappingIndex (by decide) (by decide) hnot) (by decide)

end LiveMedia.Nal
