import LiveMedia.Proofs.Nal.CheckedIndex
import LiveMedia.Proofs.Nal.Emulation
import LiveMedia.Proofs.Nal.RoundTrip

set_option autoImplicit false

/-!
# Adding a unit to a byte stream

A unit is added to a byte stream by writing all units anew, behind start codes of the width that the
first of them had. The index that comes with the result is right, but someone who scans the result
need not find the same units: a unit that had a four-byte code behind it may end in a zero byte, and
so may the last one, and in front of a three-byte code this zero is taken for a part of the code.

## Main results

* `LiveMedia.Nal.ByteStream.eq_of_index` — a stream is known from its bytes and its index.
* `LiveMedia.Nal.ByteStream.scan_bytes_eq_index_iff` — a scan finds the units of a stream where they
  are just if the stream is tidy.
* `LiveMedia.Nal.scan_insertNal` — where the units of a completed stream are found.
* `LiveMedia.Nal.scan_insertNal_ne` — a unit whose last byte is lost to a scan.
-/

namespace LiveMedia.Nal

/-! ## Streams and their indexes -/

lemma StartCode.eq_of_size_eq {code code' : StartCode} (h : code.size = code'.size) :
    code = code' := by
  revert code code'
  rintro (_ | _) (_ | _) <;> decide

namespace ByteStream

variable {s t : ByteStream} {us vs : List (StartCode × Bytes)}

/-- Units behind start codes are known from their bytes and their places. -/
lemma eq_of_indexFrom {offset : Nat} (hbytes : framed us = framed vs)
    (hindex : indexFrom offset us = indexFrom offset vs) : us = vs := by
  induction us generalizing vs offset with
  | nil =>
    cases vs with
    | nil => rfl
    | cons v vs => cases hindex
  | cons u us ih =>
    cases vs with
    | nil => cases hindex
    | cons v vs =>
      obtain ⟨code, nal⟩ := u
      obtain ⟨code', nal'⟩ := v
      obtain ⟨hplace, hrest⟩ := List.cons.inj hindex
      obtain ⟨hoffset, hlength⟩ := Fragment.mk.inj hplace
      obtain rfl : code = code' := StartCode.eq_of_size_eq (Nat.add_left_cancel hoffset)
      rw [framed_cons, framed_cons] at hbytes
      obtain ⟨hnal, htail⟩ := List.append_inj (List.append_cancel_left hbytes) hlength
      rw [hlength] at hrest
      obtain rfl : nal = nal' := hnal
      rw [ih htail hrest]

/-- **A stream is known from its bytes and its index.** -/
theorem eq_of_index (hbytes : s.bytes = t.bytes) (hindex : s.index = t.index) : s = t := by
  have hlead : s.lead = [] ↔ t.lead = [] := by
    rw [← not_iff_not, ← ne_eq, ← ne_eq, ← exists_offset_eq_zero_iff, ← exists_offset_eq_zero_iff,
      hindex]
  obtain ⟨lead, us⟩ := s
  obtain ⟨lead', vs⟩ := t
  rw [bytes_eq, bytes_eq] at hbytes
  cases lead with
  | nil =>
    obtain rfl : lead' = [] := hlead.1 rfl
    obtain rfl : us = vs := eq_of_indexFrom hbytes hindex
    rfl
  | cons b lead =>
    have hne : lead' ≠ [] := fun h => List.cons_ne_nil b lead (hlead.2 h)
    obtain ⟨c, lead', rfl⟩ := List.exists_cons_of_ne_nil hne
    obtain ⟨hplace, hrest⟩ := List.cons.inj hindex
    have hlength : (b :: lead).length = (c :: lead').length := (Fragment.mk.inj hplace).2
    obtain ⟨hfront, htail⟩ := List.append_inj hbytes hlength
    dsimp only at hfront htail hrest
    rw [hlength] at hrest
    rw [hfront, eq_of_indexFrom htail hrest]

/-- **A scan finds the units of a stream where they are just if the stream is tidy.** -/
theorem scan_bytes_eq_index_iff : scan s.bytes = s.index ↔ s.Tidy := by
  constructor
  · intro h
    have hparse : parse s.bytes = s := eq_of_index (bytes_parse s.bytes) h
    exact (parse_eq_iff.1 hparse).2
  · intro h
    rw [scan, parse_bytes h]

/-- Units behind start codes of one width are tidy just if all but the last of them may stand in
front of such a code. -/
lemma tidyFrom_map_iff {code : StartCode} {nal : Bytes} {nals : List Bytes}
    (hfree : ∀ unit ∈ nal :: nals, CodeFree unit) :
    TidyFrom nal (nals.map fun unit => (code, unit)) ↔
      ∀ unit ∈ (nal :: nals).dropLast, Precedes unit code := by
  induction nals generalizing nal with
  | nil => exact ⟨fun _ => nofun, fun _ => hfree nal List.mem_cons_self⟩
  | cons next nals ih =>
    obtain ⟨hnal, hrest⟩ := List.forall_mem_cons.1 hfree
    rw [List.map_cons, TidyFrom, ih hrest, List.dropLast_cons_cons, List.forall_mem_cons]
    exact and_iff_right hnal

/-- Where units lie behind start codes of one width. -/
lemma indexFrom_map (code : StartCode) (offset : Nat) (nals : List Bytes) :
    indexFrom offset (nals.map fun unit => (code, unit)) =
      (Framing.startCode code).indexFrom offset nals := by
  induction nals generalizing offset with
  | nil => rfl
  | cons nal nals ih =>
    rw [List.map_cons, indexFrom, Framing.indexFrom, ih]
    rfl

end ByteStream

/-- **A scan finds units behind start codes of one width just if all but the last of them may stand
in front of such a code.** -/
lemma scan_frame_concat_iff {code : StartCode} {nals : List Bytes} {last : Bytes}
    (hfree : ∀ unit ∈ nals, CodeFree unit) (hlast : CodeFree last) :
    scan ((Framing.startCode code).frame (nals ++ [last])).data =
        ((Framing.startCode code).frame (nals ++ [last])).index ↔
      ∀ unit ∈ nals, Precedes unit code := by
  let s : ByteStream := ⟨[], (nals ++ [last]).map fun unit => (code, unit)⟩
  have hdata : ((Framing.startCode code).frame (nals ++ [last])).data = s.bytes :=
    (List.flatMap_map (fun unit => (code, unit)) (fun u => u.1.bytes ++ u.2) _).symm
  have hindex : ((Framing.startCode code).frame (nals ++ [last])).index = s.index :=
    (ByteStream.indexFrom_map code 0 _).symm
  have hunits : ∀ unit ∈ [] :: (nals ++ [last]), CodeFree unit := by
    rw [List.forall_mem_cons, List.forall_mem_append, List.forall_mem_singleton]
    exact ⟨codeFree_nil, hfree, hlast⟩
  rw [hdata, hindex, ByteStream.scan_bytes_eq_index_iff]
  show ByteStream.TidyFrom [] ((nals ++ [last]).map _) ↔ _
  rw [ByteStream.tidyFrom_map_iff hunits, ← List.cons_append, List.dropLast_concat,
    List.forall_mem_cons]
  exact and_iff_right (precedes_nil code)

/-! ## Adding a unit -/

/-- The start codes with which a unit is added: those of the first unit. -/
def codeInFront (data : Bytes) : StartCode :=
  if StartCode.short.bytes <+: data then .short else .long

/-- The first unit lies at offset three just if there is a three-byte code in front of it. -/
lemma head?_scan_eq_three (data : Bytes) :
    (scan data).head?.any (·.offset == StartCode.short.size) = true ↔
      StartCode.short.bytes <+: data := by
  have htidy := ByteStream.tidy_parse data
  have hbytes := ByteStream.bytes_parse data
  unfold scan
  generalize ByteStream.parse data = s at htidy hbytes
  subst hbytes
  by_cases hlead : s.lead = []
  · obtain ⟨_, us⟩ := s
    obtain rfl := hlead
    cases us with
    | nil => decide
    | cons u us =>
      obtain ⟨code, nal⟩ := u
      have hbytes : ByteStream.bytes ⟨[], (code, nal) :: us⟩ = code.bytes ++ (nal ++ framed us) :=
        framed_cons (code, nal) us
      have hhead : (ByteStream.index ⟨[], (code, nal) :: us⟩).head? =
          some ⟨0 + code.size, nal.length⟩ := rfl
      rw [hbytes, hhead]
      cases code with
      | short => simp [StartCode.size, StartCode.bytes]
      | long => simp [StartCode.size, StartCode.bytes]
  · refine iff_of_false ?_ ((htidy.lead_ne_nil_iff.1 hlead).2 .short)
    obtain ⟨b, lead, hcons⟩ := List.exists_cons_of_ne_nil hlead
    simp [ByteStream.index, hcons, StartCode.size, StartCode.bytes]

lemma insertFraming_scan (data : Bytes) {target : Format}
    (htarget : target = .h264AnnexB ∨ target = .h265AnnexB) :
    insertFraming (scan data) target = .ok (.startCode (codeInFront data)) := by
  have hcode : (if (scan data).head?.any (·.offset == StartCode.short.size) then StartCode.short
      else .long) = codeInFront data := by
    rw [codeInFront]
    exact if_congr (head?_scan_eq_three data) rfl rfl
  rw [← hcode]
  rcases htarget with rfl | rfl <;> rfl

/-- A unit is added behind the units that a scan finds. -/
lemma insertNal_scan {data : Bytes} (hdata : data.length < addressSpace) (nal : Bytes)
    {target : Format} (htarget : target = .h264AnnexB ∨ target = .h265AnnexB) :
    insertNal data (scan data) nal target =
      .ok ((Framing.startCode (codeInFront data)).frame
        ((scan data).units data ++ [escape nal])) := by
  rw [insertNal_eq_map (insertFraming_scan data htarget),
    indexedUnits_of_consistent hdata (consistent_scan data)]
  rfl

/-- **Where the units of a completed stream are found.** A unit is added to the units of any byte
stream, in escaped form and behind the others, which stay as they are, and the index leads to all of
them. A scan of the result gives the same index just if the stream does not begin with a three-byte
start code, or if none of its units ends in a zero byte.

**Proof sketch.** What is written is a stream of units behind codes of one width. A scan finds such
units where they are just if the stream is tidy (`ByteStream.scan_bytes_eq_index_iff`). The units of
a scan and an escaped unit hold no start code, so all that is left is that each unit may stand in
front of the code (`scan_frame_concat_iff`). -/
theorem scan_insertNal {data : Bytes} (hdata : data.length < addressSpace) (nal : Bytes)
    {target : Format} (htarget : target = .h264AnnexB ∨ target = .h265AnnexB) :
    ∃ out, insertNal data (scan data) nal target = .ok out ∧
      out.index.units out.data = (scan data).units data ++ [escape nal] ∧
      out.index.length = (scan data).length + 1 ∧
      (scan out.data = out.index ↔
        (StartCode.short.bytes <+: data →
          ∀ unit ∈ (scan data).units data, unit.getLast? ≠ some 0)) := by
  refine ⟨_, insertNal_scan hdata nal htarget, Framing.units_frame _ _, ?_, ?_⟩
  · have hlengths := (consistent_scan data).holds_units.map_length
    have hlength : ((scan data).units data).length = (scan data).length := by
      simpa using congrArg List.length hlengths
    rw [Framing.length_index_frame, List.length_append, List.length_singleton, hlength]
  · have hfree : ∀ unit ∈ (scan data).units data, CodeFree unit :=
      fun unit hunit => (of_mem_units_scan hunit).1
    have hescape : CodeFree (escape nal) := (escaped_escapeFrom 0 nal).codeFree
    rw [scan_frame_concat_iff hfree hescape]
    unfold codeInFront Precedes
    split
    case isTrue hshort => simp [hshort]
    case isFalse hshort => simp [hshort]

/-- Behind four-byte codes a unit may end in a zero byte, or be empty. -/
theorem scan_insertNal_mixed :
    let data : Bytes := [0, 0, 0, 1, 0x67, 0, 0, 0, 0, 1, 0, 0, 1, 0x41, 0]
    data.length < addressSpace ∧
    ∃ out, insertNal data (scan data) [0x06, 0, 0, 1] .h265AnnexB = .ok out ∧
      out.index.units out.data = [[0x67, 0], [], [0x41, 0], [0x06, 0, 0, 3, 1]] ∧
      scan out.data = out.index := by
  intro data
  have hdata : data.length < addressSpace := by decide
  obtain ⟨out, hout, hunits, -, hscan⟩ :=
    scan_insertNal hdata [0x06, 0, 0, 1] (.inr (Eq.refl Format.h265AnnexB))
  have hlong : ¬ StartCode.short.bytes <+: data := by decide
  exact ⟨hdata, out, hout, hunits.trans (by decide), hscan.2 fun hshort => absurd hshort hlong⟩

/-- **Behind three-byte codes a scan need not find the units.** The zero byte at the end of the
first unit is taken for a part of the code behind it. -/
theorem scan_insertNal_ne :
    ¬ ∀ (data nal : Bytes) (target : Format), data.length < addressSpace →
      (target = .h264AnnexB ∨ target = .h265AnnexB) →
      ∃ out, insertNal data (scan data) nal target = .ok out ∧ scan out.data = out.index := by
  intro h
  obtain ⟨out, hout, hscan⟩ := h [0, 0, 1, 0x41, 0] [0x06] .h264AnnexB (by decide) (.inl rfl)
  have heq : insertNal [0, 0, 1, 0x41, 0] (scan [0, 0, 1, 0x41, 0]) [0x06] .h264AnnexB =
      .ok ⟨[0, 0, 1, 0x41, 0, 0, 0, 1, 0x06], [⟨3, 2⟩, ⟨8, 1⟩]⟩ := by decide
  obtain rfl := Except.ok.inj (heq.symm.trans hout)
  exact absurd hscan (by decide)

end LiveMedia.Nal
