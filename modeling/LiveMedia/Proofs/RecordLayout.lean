import LiveMedia.Avc.DecoderConfig
import LiveMedia.Hevc.DecoderConfig
import LiveMedia.Proofs.BigEndian

set_option autoImplicit false

/-!
# What configuration records look like

A configuration record is accepted just if it is written in a certain way: fixed fields, and units
behind their lengths in two bytes. What is read from it is what was written, and any bytes may follow.

## Main definitions

* `LiveMedia.Avc.DecoderConfig.Layout`, `LiveMedia.Hevc.DecoderConfig.Layout` — the parts of the two
  records.

## Main results

* `LiveMedia.Record.times_eq_ok_iff` — items one after another.
* `LiveMedia.Avc.DecoderConfig.parse_eq_ok_iff`, `LiveMedia.Hevc.DecoderConfig.parse_eq_ok_iff` — the
  bytes that are accepted, and what is read from them.
-/

namespace LiveMedia

namespace Record

variable {α β ω : Type} {data rest : Bytes}

/-! ## Readers -/

/-- One reader after another succeeds if both do. -/
lemma run_bind_eq_ok_iff {x : Reader α} {f : α → Reader β} {b : β} :
    (x >>= f).run data = .ok (b, rest) ↔
      ∃ a mid, x.run data = .ok (a, mid) ∧ (f a).run mid = .ok (b, rest) := by
  rw [StateT.run_bind]
  cases x.run data with
  | error e => simp [bind, Except.bind]
  | ok r =>
    constructor
    · exact fun h => ⟨r.1, r.2, rfl, h⟩
    · rintro ⟨a, mid, heq, h⟩
      cases heq
      exact h

/-- What is left of the record does not matter. -/
lemma run'_eq_ok_iff {x : Reader α} {a : α} :
    x.run' data = .ok a ↔ ∃ rest, x.run data = .ok (a, rest) := by
  have hrun : x.run' data = (x.run data).map Prod.fst := rfl
  rw [hrun]
  cases x.run data with
  | error e => simp [Except.map]
  | ok r =>
    constructor
    · intro h
      cases h
      exact ⟨r.2, rfl⟩
    · rintro ⟨rest, h⟩
      cases h
      rfl

/-- Bytes are taken off. -/
lemma take_eq_ok_iff {n : Nat} {short : MediaError} {field : Bytes} :
    (take n short).run data = .ok (field, rest) ↔ field.length = n ∧ data = field ++ rest := by
  show (if data.length < n then Except.error short else Except.ok (data.take n, data.drop n)) = _ ↔ _
  split
  · next hshort =>
    constructor
    · intro h
      cases h
    · rintro ⟨rfl, rfl⟩
      rw [List.length_append] at hshort
      omega
  · next hlong =>
    constructor
    · intro h
      cases h
      exact ⟨List.length_take_of_le (Nat.not_lt.1 hlong), (List.take_append_drop n data).symm⟩
    · rintro ⟨hlen, rfl⟩
      rw [List.take_left' hlen, List.drop_left' hlen]

/-- For a number, its bytes are taken off. -/
lemma number_eq_ok_iff (width : Nat) {v : Nat} :
    (number width).run data = .ok (v, rest) ↔
      v < 256 ^ width ∧ data = Bytes.ofNatBE width v ++ rest := by
  rw [number, run_bind_eq_ok_iff]
  constructor
  · rintro ⟨field, mid, hfield, h⟩
    obtain ⟨rfl, rfl⟩ := take_eq_ok_iff.1 hfield
    cases h
    exact ⟨Bytes.toNatBE_lt field, by rw [Bytes.ofNatBE_toNatBE]⟩
  · rintro ⟨hv, rfl⟩
    refine ⟨_, _, take_eq_ok_iff.2 ⟨Bytes.length_ofNatBE width v, rfl⟩, ?_⟩
    rw [Bytes.toNatBE_ofNatBE_of_lt hv]
    rfl

/-- For a number of one byte, the byte is taken off. -/
lemma number_one_eq_ok_iff {v : Nat} :
    (number 1).run data = .ok (v, rest) ↔ ∃ b : UInt8, b.toNat = v ∧ data = b :: rest := by
  rw [number_eq_ok_iff]
  constructor
  · rintro ⟨hv, rfl⟩
    exact ⟨UInt8.ofNat v, by rw [UInt8.toNat_ofNat']; omega, rfl⟩
  · rintro ⟨b, rfl, rfl⟩
    refine ⟨b.toNat_lt, ?_⟩
    rw [Bytes.ofNatBE, Nat.mul_zero, Nat.shiftRight_zero, UInt8.ofNat_toNat]
    rfl

/-- For a unit, its length and its bytes are taken off. -/
lemma sized_eq_ok_iff {tooLong : Defect} {nal : Bytes} :
    (sized tooLong).run data = .ok (nal, rest) ↔
      nal.length < 256 ^ 2 ∧ data = (Nal.Framing.lengthPrefix 2).header nal ++ nal ++ rest := by
  simp only [sized, run_bind_eq_ok_iff, number_eq_ok_iff, take_eq_ok_iff]
  constructor
  · rintro ⟨_, _, ⟨hlen, rfl⟩, rfl, rfl⟩
    exact ⟨hlen, (List.append_assoc ..).symm⟩
  · rintro ⟨hlen, rfl⟩
    exact ⟨_, _, ⟨hlen, List.append_assoc ..⟩, rfl, rfl⟩

/-- Items are taken off one after another, each of which is the value of something written. -/
lemma times_eq_ok_iff {item : Reader α} {P : ω → Prop} {value : ω → α} {code : ω → Bytes}
    (hitem : ∀ data x rest, item.run data = .ok (x, rest) ↔
      ∃ w, P w ∧ value w = x ∧ data = code w ++ rest) {n : Nat} {xs : List α} :
    (times item n).run data = .ok (xs, rest) ↔
      ∃ ws : List ω, ws.length = n ∧ (∀ w ∈ ws, P w) ∧ ws.map value = xs ∧ data = ws.flatMap code ++ rest := by
  induction n generalizing data rest xs with
  | zero =>
    constructor
    · intro h
      cases h
      exact ⟨[], rfl, by simp, rfl, rfl⟩
    · rintro ⟨ws, hlen, -, rfl, rfl⟩
      obtain rfl := List.length_eq_zero_iff.1 hlen
      rfl
  | succ n ih =>
    simp only [times, run_bind_eq_ok_iff, hitem, ih]
    constructor
    · rintro ⟨_, _, ⟨w, hw, rfl, rfl⟩, _, _, ⟨ws, rfl, hws, rfl, rfl⟩, h⟩
      cases h
      exact ⟨w :: ws, rfl, List.forall_mem_cons.2 ⟨hw, hws⟩, rfl, by simp⟩
    · rintro ⟨_ | ⟨w, ws⟩, hlen, hws, rfl, rfl⟩
      · cases hlen
      · obtain ⟨hw, hws⟩ := List.forall_mem_cons.1 hws
        exact ⟨_, _, ⟨w, hw, rfl, by simp⟩, _, _, ⟨ws, Nat.succ.inj hlen, hws, rfl, rfl⟩, rfl⟩

/-- Units are taken off one after another. -/
lemma times_sized_eq_ok_iff {tooLong : Defect} {n : Nat} {nals : List Bytes} :
    (times (sized tooLong) n).run data = .ok (nals, rest) ↔ nals.length = n ∧
      (∀ nal ∈ nals, nal.length < 256 ^ 2) ∧
      data = (Nal.Framing.lengthPrefix 2).encode nals ++ rest := by
  have hitem (data : Bytes) (x : Bytes) (rest : Bytes) :
      (sized tooLong).run data = .ok (x, rest) ↔ ∃ nal, nal.length < 256 ^ 2 ∧ id nal = x ∧
        data = (Nal.Framing.lengthPrefix 2).header nal ++ nal ++ rest := by
    rw [sized_eq_ok_iff]
    constructor
    · exact fun h => ⟨x, h.1, rfl, h.2⟩
    · rintro ⟨_, hlen, rfl, rfl⟩
      exact ⟨hlen, rfl⟩
  rw [times_eq_ok_iff hitem]
  constructor
  · rintro ⟨nals, hlen, hnals, rfl, rfl⟩
    rw [List.map_id]
    exact ⟨hlen, hnals, rfl⟩
  · rintro ⟨hlen, hnals, rfl⟩
    exact ⟨nals, hlen, hnals, List.map_id _, rfl⟩

end Record

open Record

/-! ## The avcC record -/

namespace Avc.DecoderConfig

/-- The parts of an avcC record. -/
structure Layout where
  profile : UInt8
  compatibility : UInt8
  level : UInt8
  /-- One less than the width of length prefixes in the low two bits. -/
  lengthByte : UInt8
  /-- The number of sequence parameter sets in the low five bits. -/
  countByte : UInt8
  sps : List Bytes
  pps : List Bytes
  /-- What is behind the record. -/
  trailing : Bytes

namespace Layout

/-- The counts and the lengths fit their fields. -/
structure WellFormed (x : Layout) : Prop where
  sps_count : x.countByte.toNat % 32 = x.sps.length
  pps_count : x.pps.length < 256
  sps_fit : ∀ nal ∈ x.sps, nal.length < 256 ^ 2
  pps_fit : ∀ nal ∈ x.pps, nal.length < 256 ^ 2

/-- The record as it is written. -/
def bytes (x : Layout) : Bytes :=
  1 :: x.profile :: x.compatibility :: x.level :: x.lengthByte :: x.countByte ::
    ((Nal.Framing.lengthPrefix 2).encode x.sps ++ UInt8.ofNat x.pps.length ::
      ((Nal.Framing.lengthPrefix 2).encode x.pps ++ x.trailing))

/-- The width of length prefixes. -/
def lengthSize (x : Layout) : Nat :=
  x.lengthByte.toNat % 4 + 1

/-- What the record says. -/
def config (x : Layout) : DecoderConfig where
  profile := x.profile
  compatibility := x.compatibility
  level := x.level
  lengthSize := x.lengthSize
  sps := x.sps
  pps := x.pps
  raw := x.bytes

end Layout

variable {data rest : Bytes} {config : DecoderConfig}

lemma parameterSets_eq_ok_iff {modulus : Nat} {sets : List Bytes} :
    (parameterSets modulus).run data = .ok (sets, rest) ↔
      ∃ count : UInt8, count.toNat % modulus = sets.length ∧ (∀ nal ∈ sets, nal.length < 256 ^ 2) ∧
        data = count :: ((Nal.Framing.lengthPrefix 2).encode sets ++ rest) := by
  simp only [parameterSets, run_bind_eq_ok_iff, number_one_eq_ok_iff, times_sized_eq_ok_iff]
  constructor
  · rintro ⟨_, _, ⟨count, rfl, rfl⟩, hlen, hfit, rfl⟩
    exact ⟨count, hlen.symm, hfit, rfl⟩
  · rintro ⟨count, hlen, hfit, rfl⟩
    exact ⟨_, _, ⟨count, rfl, rfl⟩, hlen.symm, hfit, rfl⟩

lemma fields_eq_ok_iff {raw : Bytes} : (fields raw).run data = .ok (config, rest) ↔
    ∃ x : Layout, x.WellFormed ∧ x.trailing = rest ∧ x.bytes = data ∧
      { x.config with raw } = config := by
  simp only [fields, run_bind_eq_ok_iff, number_one_eq_ok_iff]
  constructor
  · rintro ⟨_, _, ⟨version, rfl, rfl⟩, h⟩
    split at h
    · simp only [run_bind_eq_ok_iff] at h
      obtain ⟨_, _, h, -⟩ := h
      cases h
    · next hversion =>
      simp only [run_bind_eq_ok_iff, number_one_eq_ok_iff, parameterSets_eq_ok_iff] at h
      obtain ⟨_, _, ⟨profile, rfl, rfl⟩, _, _, ⟨compatibility, rfl, rfl⟩, _, _, ⟨level, rfl, rfl⟩,
        _, _, ⟨lengthByte, rfl, rfl⟩, sps, _, ⟨countByte, hsps, hspsFit, rfl⟩, pps, _,
        ⟨ppsCount, hpps, hppsFit, rfl⟩, h⟩ := h
      cases h
      obtain rfl : version = 1 := UInt8.toNat_inj.1 (Decidable.not_not.1 hversion)
      have hlt : pps.length < 256 := by omega
      have hcount : UInt8.ofNat pps.length = ppsCount := by
        rw [← hpps, Nat.mod_eq_of_lt ppsCount.toNat_lt, UInt8.ofNat_toNat]
      refine ⟨⟨profile, compatibility, level, lengthByte, countByte, sps, pps, rest⟩,
        ⟨hsps, hlt, hspsFit, hppsFit⟩, rfl, ?_, ?_⟩
      · rw [Layout.bytes, hcount]
      · simp only [UInt8.ofNat_toNat]
        rfl
  · rintro ⟨x, hx, rfl, rfl, rfl⟩
    refine ⟨_, _, ⟨1, rfl, rfl⟩, ?_⟩
    rw [if_neg (by decide)]
    simp only [run_bind_eq_ok_iff, number_one_eq_ok_iff, parameterSets_eq_ok_iff]
    have hcount : (UInt8.ofNat x.pps.length).toNat % 256 = x.pps.length := by
      rw [UInt8.toNat_ofNat', Nat.mod_mod, Nat.mod_eq_of_lt hx.pps_count]
    refine ⟨_, _, ⟨_, rfl, rfl⟩, _, _, ⟨_, rfl, rfl⟩, _, _, ⟨_, rfl, rfl⟩, _, _, ⟨_, rfl, rfl⟩, x.sps,
      _, ⟨_, hx.sps_count, hx.sps_fit, rfl⟩, x.pps, _, ⟨_, hcount, hx.pps_fit, rfl⟩, ?_⟩
    simp only [UInt8.ofNat_toNat]
    rfl

/-- **A record is accepted just if it is written so**, and what is read is what it says. -/
theorem parse_eq_ok_iff : parse data = .ok config ↔
    ∃ x : Layout, x.WellFormed ∧ x.bytes = data ∧ x.config = config := by
  have hparse : parse data =
      if data.length < minSize then .error .truncated else (fields data).run' data := by
    unfold parse
    split <;> rfl
  rw [hparse]
  constructor
  · intro h
    split at h
    · cases h
    · obtain ⟨rest, h⟩ := run'_eq_ok_iff.1 h
      obtain ⟨x, hx, -, rfl, rfl⟩ := fields_eq_ok_iff.1 h
      exact ⟨x, hx, rfl, rfl⟩
  · rintro ⟨x, hx, rfl, rfl⟩
    have hlong : ¬ x.bytes.length < minSize := by
      simp only [Layout.bytes, minSize, List.length_cons, List.length_append]
      omega
    rw [if_neg hlong]
    exact run'_eq_ok_iff.2 ⟨x.trailing, fields_eq_ok_iff.2 ⟨x, hx, rfl, rfl, rfl⟩⟩

end Avc.DecoderConfig

/-! ## The hvcC record -/

namespace Hevc.DecoderConfig

/-- An array of units in an hvcC record. -/
structure UnitArray where
  /-- The type that the units are said to have. -/
  type : UInt8
  units : List Bytes

namespace UnitArray

/-- The count and the lengths fit their fields. -/
structure WellFormed (a : UnitArray) : Prop where
  count : a.units.length < 256 ^ 2
  fit : ∀ nal ∈ a.units, nal.length < 256 ^ 2

/-- The array as it is written. -/
def bytes (a : UnitArray) : Bytes :=
  a.type :: (Bytes.ofNatBE 2 a.units.length ++ (Nal.Framing.lengthPrefix 2).encode a.units)

end UnitArray

/-- The parts of an hvcC record. -/
structure Layout where
  /-- The bytes in front of the arrays, the last one of which is the number of arrays. -/
  header : Bytes
  arrays : List UnitArray
  /-- What is behind the record. -/
  trailing : Bytes

namespace Layout

/-- The header is whole, with version 1, and the counts and the lengths fit their fields. -/
structure WellFormed (x : Layout) : Prop where
  header_size : x.header.length = headerSize
  version : headerByte x.header 0 = 1
  count : headerByte x.header 22 = x.arrays.length
  arrays : ∀ a ∈ x.arrays, a.WellFormed

/-- The record as it is written. -/
def bytes (x : Layout) : Bytes :=
  x.header ++ (x.arrays.flatMap UnitArray.bytes ++ x.trailing)

/-- The width of length prefixes, one more than the low two bits of their byte. -/
def lengthSize (x : Layout) : Nat :=
  headerByte x.header 21 % 4 + 1

/-- The units of all arrays, in record order. -/
def units (x : Layout) : List Bytes :=
  x.arrays.flatMap UnitArray.units

/-- What the record says. -/
def config (x : Layout) : DecoderConfig where
  profileIdc := headerByte x.header 1 % 32
  levelIdc := headerByte x.header 12
  lengthSize := x.lengthSize
  units := x.units
  raw := x.bytes

end Layout

variable {data rest : Bytes} {config : DecoderConfig}

lemma unitArray_eq_ok_iff (data : Bytes) (units : List Bytes) (rest : Bytes) :
    unitArray.run data = .ok (units, rest) ↔
      ∃ a : UnitArray, a.WellFormed ∧ a.units = units ∧ data = a.bytes ++ rest := by
  simp only [unitArray, run_bind_eq_ok_iff, number_one_eq_ok_iff, number_eq_ok_iff 2,
    times_sized_eq_ok_iff]
  constructor
  · rintro ⟨_, _, ⟨type, rfl, rfl⟩, _, _, ⟨hcount, rfl⟩, rfl, hfit, rfl⟩
    exact ⟨⟨type, units⟩, ⟨hcount, hfit⟩, rfl, by simp [UnitArray.bytes]⟩
  · rintro ⟨a, ha, rfl, rfl⟩
    exact ⟨_, _, ⟨a.type, rfl, rfl⟩, _, _, ⟨ha.count, List.append_assoc ..⟩, rfl, ha.fit, rfl⟩

lemma fields_eq_ok_iff {raw : Bytes} : (fields raw).run data = .ok (config, rest) ↔
    ∃ x : Layout, x.WellFormed ∧ x.trailing = rest ∧ x.bytes = data ∧
      { x.config with raw } = config := by
  simp only [fields, run_bind_eq_ok_iff, take_eq_ok_iff]
  constructor
  · rintro ⟨header, _, ⟨hsize, rfl⟩, h⟩
    split at h
    · simp only [run_bind_eq_ok_iff] at h
      obtain ⟨_, _, h, -⟩ := h
      cases h
    · next hversion =>
      simp only [run_bind_eq_ok_iff, times_eq_ok_iff unitArray_eq_ok_iff] at h
      obtain ⟨_, _, ⟨arrays, hcount, harrays, rfl, rfl⟩, h⟩ := h
      cases h
      exact ⟨⟨header, arrays, rest⟩, ⟨hsize, Decidable.not_not.1 hversion, hcount.symm, harrays⟩,
        rfl, rfl, by simp [Layout.config, Layout.lengthSize, Layout.units, List.flatMap]⟩
  · rintro ⟨x, hx, rfl, rfl, rfl⟩
    refine ⟨x.header, _, ⟨hx.header_size, rfl⟩, ?_⟩
    rw [if_neg (Decidable.not_not.2 hx.version)]
    simp only [run_bind_eq_ok_iff, times_eq_ok_iff unitArray_eq_ok_iff]
    exact ⟨_, _, ⟨x.arrays, hx.count.symm, hx.arrays, rfl, rfl⟩, rfl⟩

/-- **A record is accepted just if it is written so**, and what is read is what it says. -/
theorem parse_eq_ok_iff : parse data = .ok config ↔
    ∃ x : Layout, x.WellFormed ∧ x.bytes = data ∧ x.config = config := by
  rw [parse, run'_eq_ok_iff]
  simp only [fields_eq_ok_iff]
  constructor
  · rintro ⟨_, x, hx, -, rfl, rfl⟩
    exact ⟨x, hx, rfl, rfl⟩
  · rintro ⟨x, hx, rfl, rfl⟩
    exact ⟨_, x, hx, rfl, rfl, rfl⟩

end Hevc.DecoderConfig

end LiveMedia
