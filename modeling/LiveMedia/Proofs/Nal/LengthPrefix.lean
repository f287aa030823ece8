import LiveMedia.Nal.LengthPrefix
import LiveMedia.Proofs.BigEndian
import LiveMedia.Proofs.Nal.Layout

set_option autoImplicit false

/-!
# Reading length-prefixed units

A buffer is read to its end just if it is a run of units, each behind its length and each short
enough for the length to be written in the prefix. It is the run of the units that are read. From
any other buffer the longest such run at its front is read.

## Main definitions

* `LiveMedia.Nal.Ends` — what is left behind the units, and the fault that is met there.

## Main results

* `LiveMedia.Nal.splitLengthPrefixed_encode_append` — units behind their lengths are read first.
* `LiveMedia.Nal.exists_ends` — what is read from any buffer, and what is left.
* `LiveMedia.Nal.readLengthPrefixed_eq_ok_iff` — the buffers that are read to their end.
-/

namespace LiveMedia.Nal

variable {width : PrefixWidth} {nal data : Bytes} {nals : List Bytes}

/-- A unit behind its length is read first. -/
lemma splitLengthPrefixed_header_append (h : nal.length < 256 ^ width.bytes) (rest : Bytes) :
    splitLengthPrefixed width (Bytes.ofNatBE width.bytes nal.length ++ (nal ++ rest)) =
      (splitLengthPrefixed width rest).cons nal := by
  set header := Bytes.ofNatBE width.bytes nal.length with hheader
  have hlen : header.length = width.bytes := Bytes.length_ofNatBE _ _
  have hpos := width.pos
  have htake : (header ++ (nal ++ rest)).take width.bytes = header := List.take_left' hlen
  have hdrop : (header ++ (nal ++ rest)).drop width.bytes = nal ++ rest := List.drop_left' hlen
  have hempty : ¬ (header ++ (nal ++ rest)).isEmpty = true := by
    rw [List.isEmpty_iff_length_eq_zero, List.length_append]
    omega
  have hlong : ¬ (header ++ (nal ++ rest)).length < width.bytes := by
    rw [List.length_append]
    omega
  have hnumber : Bytes.toNatBE header = nal.length := Bytes.toNatBE_ofNatBE_of_lt h
  have hrest : ¬ (nal ++ rest).length < nal.length := by
    rw [List.length_append]
    omega
  rw [splitLengthPrefixed, if_neg hempty, if_neg hlong, htake, hdrop, hnumber, if_neg hrest,
    List.take_left, List.drop_left]

/-- Units behind their lengths are read first, whatever follows them. -/
lemma splitLengthPrefixed_encode_append (h : ∀ nal ∈ nals, nal.length < 256 ^ width.bytes)
    (rest : Bytes) :
    splitLengthPrefixed width ((Framing.lengthPrefix width.bytes).encode nals ++ rest) =
      ⟨nals ++ (splitLengthPrefixed width rest).units, (splitLengthPrefixed width rest).fault⟩ := by
  induction nals with
  | nil => rfl
  | cons nal nals ih =>
    obtain ⟨hnal, hnals⟩ := List.forall_mem_cons.1 h
    rw [Framing.encode_cons, List.append_assoc, List.append_assoc, Framing.header,
      splitLengthPrefixed_header_append hnal, ih hnals]
    rfl

lemma splitLengthPrefixed_nil : splitLengthPrefixed width [] = ⟨[], none⟩ := by
  rw [splitLengthPrefixed]
  rfl

/-- How a buffer ends behind the last unit that is read from it, and the fault that is met there. -/
inductive Ends (width : PrefixWidth) : Bytes → Option MediaError → Prop where
  /-- Nothing is left. -/
  | done : Ends width [] none
  /-- The next length is cut short. -/
  | cut (rest : Bytes) : rest ≠ [] → rest.length < width.bytes → Ends width rest (some .truncated)
  /-- The next length declares more bytes than there are behind it. -/
  | beyond (header rest : Bytes) : header.length = width.bytes →
    rest.length < Bytes.toNatBE header →
      Ends width (header ++ rest) (some (.invalid .nalLengthExceeds))

/-- Behind the units that are read from a buffer stands what the fault is about. -/
lemma exists_ends (width : PrefixWidth) (data : Bytes) : ∃ rest,
    (Framing.lengthPrefix width.bytes).encode (splitLengthPrefixed width data).units ++ rest = data ∧
      (∀ nal ∈ (splitLengthPrefixed width data).units, nal.length < 256 ^ width.bytes) ∧
      Ends width rest (splitLengthPrefixed width data).fault := by
  fun_induction splitLengthPrefixed width data with
  | case1 data hempty =>
    rw [List.isEmpty_iff.1 hempty]
    exact ⟨[], rfl, nofun, .done⟩
  | case2 data hempty hshort =>
    exact ⟨data, rfl, nofun, .cut data (fun h => hempty (List.isEmpty_iff.2 h)) hshort⟩
  | case3 data hempty hlong length rest hrest =>
    have hwidth : (data.take width.bytes).length = width.bytes :=
      List.length_take_of_le (Nat.not_lt.1 hlong)
    refine ⟨data.take width.bytes ++ rest, List.take_append_drop _ _, nofun, ?_⟩
    exact .beyond _ rest hwidth hrest
  | case4 data hempty hlong length rest hrest ih =>
    obtain ⟨behind, hdata, hfits, hends⟩ := ih
    have hwidth : (data.take width.bytes).length = width.bytes :=
      List.length_take_of_le (Nat.not_lt.1 hlong)
    have hnal : (rest.take length).length = length := List.length_take_of_le (Nat.not_lt.1 hrest)
    have hheader : Bytes.ofNatBE width.bytes length = data.take width.bytes := by
      have hspell := Bytes.ofNatBE_toNatBE (data.take width.bytes)
      rwa [hwidth] at hspell
    refine ⟨behind, ?_, List.forall_mem_cons.2 ⟨?_, hfits⟩, hends⟩
    · rw [SplitUnits.cons, Framing.encode_cons, List.append_assoc, List.append_assoc, hdata,
        Framing.header, hnal, hheader, List.take_append_drop, List.take_append_drop]
    · rw [hnal, ← hwidth]
      exact Bytes.toNatBE_lt _

/-- The units that are read from a buffer without a fault are the whole buffer. -/
lemma encode_units_of_fault (h : (splitLengthPrefixed width data).fault = none) :
    (Framing.lengthPrefix width.bytes).encode (splitLengthPrefixed width data).units = data ∧
      ∀ nal ∈ (splitLengthPrefixed width data).units, nal.length < 256 ^ width.bytes := by
  obtain ⟨rest, hdata, hfits, hends⟩ := exists_ends width data
  rw [h] at hends
  cases hends
  rw [List.append_nil] at hdata
  exact ⟨hdata, hfits⟩

/-- **A buffer is read to its end just if it is a run of units behind their lengths**, and it is
the run of the units that are read. -/
theorem readLengthPrefixed_eq_ok_iff : readLengthPrefixed width data = .ok nals ↔
    (Framing.lengthPrefix width.bytes).encode nals = data ∧
      ∀ nal ∈ nals, nal.length < 256 ^ width.bytes := by
  constructor
  · intro h
    unfold readLengthPrefixed at h
    cases hfault : (splitLengthPrefixed width data).fault with
    | some e => simp [hfault] at h
    | none =>
      simp only [hfault, Except.ok.injEq] at h
      rw [← h]
      exact encode_units_of_fault hfault
  · rintro ⟨rfl, h⟩
    have hsplit := splitLengthPrefixed_encode_append h []
    rw [splitLengthPrefixed_nil, List.append_nil, List.append_nil] at hsplit
    rw [readLengthPrefixed, hsplit]

end LiveMedia.Nal
