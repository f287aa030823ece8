import LiveMedia.Aac.Adts
import LiveMedia.Proofs.Bits.Cursor

set_option autoImplicit false

/-!
# ADTS headers and frames

A header whose fields fit is read back from what is written for it, and nothing else is read as a
header. A header that is too wide for its fields is written like the one that holds the low bits. A
frame is taken off a run just if its header is usable and the run covers it.

## Main definitions

* `LiveMedia.Aac.AdtsHeader.Fits` — every field of a header fits its place.
* `LiveMedia.Aac.AdtsHeader.octets` — the bytes of the header in front of a payload.

## Main results

* `LiveMedia.Aac.AdtsHeader.outcome_read_eq_ok_iff`, `LiveMedia.Aac.AdtsHeader.parse_eq_ok_iff` —
  what is read as a header.
* `LiveMedia.Aac.AdtsHeader.toBytes_bits_forPayload`, `LiveMedia.Aac.adtsFrame_of_le` — the header in
  front of a payload by its bytes.
* `LiveMedia.Aac.takeAdtsFrame_eq_ok_iff` — when a frame is taken off a run.
-/

namespace LiveMedia.Aac

open Bits

namespace AdtsHeader

/-! ## Reading headers -/

/-- Every field fits its place, and the checksum is there if the header says so. -/
structure Fits (h : AdtsHeader) : Prop where
  layer : h.layer < 0x4
  profile : h.profile < 0x4
  rateIndex : h.rateIndex < 0x10
  channelConfig : h.channelConfig < 0x8
  frameLength : h.frameLength < 0x2000
  fullness : h.fullness < 0x800
  blocks : h.blocks < 0x4
  protection : h.crc.isNone = h.protectionAbsent
  crc : ∀ c ∈ h.crc, c < 0x10000

section

variable {bits rest : List Bool} {h : AdtsHeader}

lemma outcome_readSyncword_eq_ok_iff {u : Unit} :
    outcome readSyncword bits = (.ok u, rest) ↔ bits = ofNat 12 syncword ++ rest := by
  simp only [readSyncword, outcome_bind_eq_iff, outcome_readBits_eq_ok_iff]
  constructor
  · rintro ⟨word, _, ⟨-, -, rfl⟩, h⟩
    by_cases hword : word = syncword
    · rw [if_pos hword] at h
      cases h
      rw [hword]
    · rw [if_neg hword] at h
      cases h
  · rintro rfl
    exact ⟨syncword, rest, ⟨by decide, by decide, rfl⟩, rfl⟩

lemma outcome_readCrc_eq_ok_iff {absent : Bool} {crc : Option Nat} :
    outcome (readCrc absent) bits = (.ok crc, rest) ↔
      crc.isNone = absent ∧ (∀ c ∈ crc, c < 0x10000) ∧ bits = crc.elim [] (ofNat 16) ++ rest := by
  cases absent with
  | true =>
    constructor
    · intro h
      cases h
      exact ⟨rfl, fun _ h => (by cases h), rfl⟩
    · rintro ⟨hnone, -, rfl⟩
      rw [Option.isNone_iff_eq_none.1 hnone]
      rfl
  | false =>
    rw [readCrc, if_neg Bool.false_ne_true, ← bind_pure_comp]
    simp only [outcome_bind_eq_iff, outcome_readBits_eq_ok_iff]
    constructor
    · rintro ⟨c, _, ⟨-, hc, rfl⟩, h⟩
      cases h
      refine ⟨rfl, ?_, rfl⟩
      rintro _ ⟨⟩
      exact hc
    · rintro ⟨hsome, hc, rfl⟩
      cases crc with
      | none => cases hsome
      | some c => exact ⟨c, rest, ⟨by decide, hc c rfl, rfl⟩, rfl⟩

/-- Headers are read just from what is written for headers that fit. -/
theorem outcome_read_eq_ok_iff :
    outcome read bits = (.ok h, rest) ↔ h.Fits ∧ bits = h.bits ++ rest := by
  simp only [read, outcome_bind_eq_iff, outcome_readSyncword_eq_ok_iff, outcome_readBit_eq_ok_iff,
    outcome_readBits_eq_ok_iff, outcome_readCrc_eq_ok_iff, outcome_pure, Prod.mk.injEq]
  constructor
  · rintro ⟨⟨⟩, _, rfl, mpeg2, _, rfl, layer, _, ⟨-, hlayer, rfl⟩, absent, _, rfl, profile, _,
      ⟨-, hprofile, rfl⟩, rateIndex, _, ⟨-, hrate, rfl⟩, privateBit, _, rfl, channelConfig, _,
      ⟨-, hchannels, rfl⟩, original, _, rfl, home, _, rfl, idBit, _, rfl, idStart, _, rfl, length, _,
      ⟨-, hlength, rfl⟩, fullness, _, ⟨-, hfullness, rfl⟩, blocks, _, ⟨-, hblocks, rfl⟩, crc, _,
      ⟨hprotection, hcrc, rfl⟩, hheader, rfl⟩
    cases hheader
    exact ⟨⟨hlayer, hprofile, hrate, hchannels, hlength, hfullness, hblocks, hprotection, hcrc⟩,
      by simp [AdtsHeader.bits]⟩
  · rintro ⟨hfits, rfl⟩
    simp only [AdtsHeader.bits, List.append_assoc, List.cons_append, List.nil_append]
    exact ⟨(), _, rfl, _, _, rfl, _, _, ⟨by decide, hfits.layer, rfl⟩, _, _, rfl, _, _,
      ⟨by decide, hfits.profile, rfl⟩, _, _, ⟨by decide, hfits.rateIndex, rfl⟩, _, _, rfl, _, _,
      ⟨by decide, hfits.channelConfig, rfl⟩, _, _, rfl, _, _, rfl, _, _, rfl, _, _, rfl, _, _,
      ⟨by decide, hfits.frameLength, rfl⟩, _, _, ⟨by decide, hfits.fullness, rfl⟩, _, _,
      ⟨by decide, hfits.blocks, rfl⟩, _, _, ⟨hfits.protection, hfits.crc, rfl⟩, rfl, rfl⟩

end

lemma follows_read {σ : Type} [BitSource σ] [LawfulBitSource σ] :
    Follows Left (read : Read σ AdtsHeader) read := by
  have hsync : Follows Left (readSyncword : Read σ Unit) readSyncword :=
    (follows_readBits 12).bind fun _ => .ite (.pure _) (.throw _)
  have hcrc (absent : Bool) : Follows Left (readCrc absent : Read σ (Option Nat)) (readCrc absent) :=
    .ite (.pure _) ((follows_readBits 16).map some)
  exact hsync.bind fun _ => follows_readBit.bind fun _ => (follows_readBits 2).bind fun _ =>
    follows_readBit.bind fun absent => (follows_readBits 2).bind fun _ =>
      (follows_readBits 4).bind fun _ => follows_readBit.bind fun _ =>
        (follows_readBits 3).bind fun _ => follows_readBit.bind fun _ => follows_readBit.bind fun _ =>
          follows_readBit.bind fun _ => follows_readBit.bind fun _ =>
            (follows_readBits 13).bind fun _ => (follows_readBits 11).bind fun _ =>
              (follows_readBits 2).bind fun _ => (hcrc absent).bind fun _ => .pure _

section

variable {h : AdtsHeader} {data : Bytes}

/-- A header takes seven bytes, and two more for a checksum. -/
lemma length_bits (h : AdtsHeader) : h.bits.length = 56 + h.crc.elim 0 fun _ => 16 := by
  cases hcrc : h.crc with
  | none => simp [bits, hcrc]
  | some c => simp [bits, hcrc]

/-- A header is parsed just from bytes that begin with it. -/
theorem parse_eq_ok_iff : parse data = .ok h ↔ h.Fits ∧ h.bits <+: ofBytes data := by
  rw [parse]
  rcases Nat.lt_or_ge data.length minSize with hshort | hlong
  · rw [if_pos hshort]
    refine ⟨fun h => (by cases h), fun ⟨_, hbegin⟩ => ?_⟩
    have hle := hbegin.length_le
    rw [length_bits, length_ofBytes] at hle
    unfold minSize at hshort
    omega
  · rw [if_neg (Nat.not_lt.2 hlong)]
    have hread : (outcome read ({ data := data } : BitCursor)).1 = (outcome read (ofBytes data)).1 :=
      (follows_read _ _ (BitCursor.left_new data)).1
    show (outcome read ({ data := data } : BitCursor)).1 = .ok h ↔ _
    rw [hread]
    constructor
    · intro hok
      obtain ⟨hfits, hbits⟩ := outcome_read_eq_ok_iff.1 (Prod.ext hok rfl)
      exact ⟨hfits, _, hbits.symm⟩
    · rintro ⟨hfits, rest, hrest⟩
      rw [outcome_read_eq_ok_iff.2 ⟨hfits, hrest.symm⟩]

/-! ## Headers of frames -/

variable {profile rateIndex channelConfig length : Nat}

/-- The header in front of a payload is written with the low bits of the channel configuration. -/
lemma bits_forPayload_mod (profile rateIndex channelConfig length : Nat) :
    (forPayload profile rateIndex channelConfig length).bits =
      (forPayload profile rateIndex (channelConfig % 8) length).bits := by
  have hchannels : ofNat 3 (channelConfig % 8) = ofNat 3 channelConfig := ofNat_mod 3 channelConfig
  simp only [bits, forPayload, hchannels]

lemma length_bits_forPayload (profile rateIndex channelConfig length : Nat) :
    (forPayload profile rateIndex channelConfig length).bits.length = 8 * minSize :=
  length_bits _

/-- The header in front of a payload takes whole bytes. -/
lemma dvd_length_bits_forPayload (profile rateIndex channelConfig length : Nat) :
    8 ∣ (forPayload profile rateIndex channelConfig length).bits.length :=
  ⟨minSize, length_bits_forPayload ..⟩

lemma fits_forPayload (hprofile : profile < 4) (hrate : rateIndex < 16) (hchannels : channelConfig < 8)
    (hlength : length + minSize ≤ maxFrameLength) :
    (forPayload profile rateIndex channelConfig length).Fits where
  layer := Nat.succ_pos 3
  profile := hprofile
  rateIndex := hrate
  channelConfig := hchannels
  frameLength := Nat.lt_succ_of_le hlength
  fullness := Nat.lt_succ_self 0x7FF
  blocks := Nat.succ_pos 3
  protection := rfl
  crc := fun _ h => by cases h

/-! ## The bytes of a header -/

/-- The seven bytes of the header in front of a payload, as numbers: each field is cut to its width
and shifted to its place, and a byte keeps the low bits. -/
def octets (profile rateIndex channelConfig frameLength : Nat) : List Nat :=
  [0xFF, 0xF1,
    (profile &&& 0x3) <<< 6 ||| (rateIndex &&& 0xF) <<< 2 ||| (channelConfig &&& 0x7) >>> 2,
    (channelConfig &&& 0x7) <<< 6 ||| frameLength >>> 11, frameLength >>> 3,
    (frameLength &&& 0x7) <<< 5 ||| 0x1F, 0xFC]

/-- The third byte ends within the channel configuration. -/
lemma ofNat_third_octet (profile rateIndex channelConfig : Nat) :
    ofNat 8 ((profile &&& 0x3) <<< 6 ||| (rateIndex &&& 0xF) <<< 2 |||
        (channelConfig &&& 0x7) >>> 2) ++ ofNat 2 (channelConfig &&& 0x7) =
      ofNat 2 profile ++ ofNat 4 rateIndex ++ false :: ofNat 3 channelConfig := by
  rw [Nat.and_two_pow_sub_one_eq_mod profile 2, Nat.and_two_pow_sub_one_eq_mod rateIndex 4,
    Nat.and_two_pow_sub_one_eq_mod channelConfig 3]
  have hrate : rateIndex % 2 ^ 4 < 2 ^ 4 := Nat.mod_lt _ (by decide)
  have hchannels : channelConfig % 2 ^ 3 < 2 ^ 3 := Nat.mod_lt _ (by decide)
  have htop : (channelConfig % 2 ^ 3) >>> 2 < 2 ^ 2 := by
    rw [Nat.shiftRight_eq_div_pow]
    omega
  have hshift : (profile % 2 ^ 2) <<< 6 ||| (rateIndex % 2 ^ 4) <<< 2 =
      ((profile % 2 ^ 2) <<< 4 ||| rateIndex % 2 ^ 4) <<< 2 := by
    rw [Nat.shiftLeft_or_distrib, ← Nat.shiftLeft_add]
  -- the private bit is the zero in front of the three bits of the channel configuration
  have hprivate : ofNat 4 (channelConfig % 2 ^ 3) = false :: ofNat 3 (channelConfig % 2 ^ 3) :=
    ofNat_add_of_lt 1 hchannels
  rw [hshift, ofNat_shiftLeft_or 6 htop, ofNat_shiftLeft_or 2 hrate, List.append_assoc,
    ← ofNat_add 2 2, hprivate, ofNat_mod, ofNat_mod, ofNat_mod]

/-- The frame length begins and ends within a byte; the bits of the fourth byte in front of it are
zeros. -/
lemma ofNat_length_octets {frameLength : Nat} (h : frameLength < 2 ^ 13) :
    [false, false, false, false] ++ ofNat 13 frameLength =
      ofNat 6 (frameLength >>> 11) ++ ofNat 8 (frameLength >>> 3) ++ ofNat 3 frameLength := by
  have hwide : ofNat 17 frameLength = [false, false, false, false] ++ ofNat 13 frameLength :=
    ofNat_add_of_lt 4 h
  rw [← hwide, ofNat_add 14 3, ofNat_add 6 8, ← Nat.shiftRight_add]

/-- The header in front of a payload is made of its bytes. -/
theorem toBytes_bits_forPayload (h : length + minSize ≤ maxFrameLength) :
    toBytes (forPayload profile rateIndex channelConfig length).bits =
      (octets profile rateIndex channelConfig (length + minSize)).map UInt8.ofNat := by
  rw [← toBytes_ofBytes ((octets ..).map _)]
  refine congrArg toBytes ?_
  have hlength : length + minSize < 2 ^ 13 := Nat.lt_succ_of_le h
  have hfourth : ofNat 8 ((channelConfig &&& 0x7) <<< 6 ||| (length + minSize) >>> 11) =
      ofNat 2 (channelConfig &&& 0x7) ++ ofNat 6 ((length + minSize) >>> 11) := by
    have htop : (length + minSize) >>> 11 < 2 ^ 6 := by
      rw [Nat.shiftRight_eq_div_pow]
      omega
    exact ofNat_shiftLeft_or 2 htop
  have hsixth : ofNat 8 (((length + minSize) &&& 0x7) <<< 5 ||| 0x1F) =
      ofNat 3 (length + minSize) ++ ofNat 5 0x1F := by
    have hones : 0x1F < 2 ^ 5 := by decide
    rw [Nat.and_two_pow_sub_one_eq_mod _ 3, ofNat_shiftLeft_or 3 hones, ofNat_mod]
  have hstart : ofNat 12 syncword ++ [false] ++ ofNat 2 0 ++ [true] =
      ofNat 8 0xFF ++ ofNat 8 0xF1 := by decide
  have hend : ofNat 11 0x7FF ++ ofNat 2 0 = ofNat 5 0x1F ++ ofNat 8 0xFC := by decide
  calc (forPayload profile rateIndex channelConfig length).bits
      = ofNat 8 0xFF ++ (ofNat 8 0xF1 ++
          ((ofNat 2 profile ++ ofNat 4 rateIndex ++ false :: ofNat 3 channelConfig) ++
            (([false, false, false, false] ++ ofNat 13 (length + minSize)) ++
              (ofNat 5 0x1F ++ ofNat 8 0xFC)))) := by
        rw [← List.append_assoc (ofNat 8 0xFF), ← hstart, ← hend]
        simp only [bits, forPayload, Option.elim_none, List.append_assoc, List.append_nil,
          List.cons_append, List.nil_append]
    _ = ofBytes ((octets profile rateIndex channelConfig (length + minSize)).map UInt8.ofNat) := by
        rw [← ofNat_third_octet, ofNat_length_octets hlength]
        simp only [octets, List.map_cons, List.map_nil, ofBytes_cons, ofBytes_nil,
          ofNat_toNat_ofNat, hfourth, hsixth, List.append_assoc, List.append_nil]

end

end AdtsHeader

/-! ## Frames -/

open AdtsHeader

section

variable {profile rateIndex channelConfig : Nat} {payload frame : Bytes}

/-- A payload is put into a frame just if the length of the frame fits its field. -/
lemma adtsFrame_eq_ok_iff :
    adtsFrame profile rateIndex channelConfig payload = .ok frame ↔
      payload.length + minSize ≤ maxFrameLength ∧
        toBytes (forPayload profile rateIndex channelConfig payload.length).bits ++ payload = frame := by
  show (if maxFrameLength < payload.length + minSize then _ else _) = _ ↔ _
  rcases Nat.lt_or_ge maxFrameLength (payload.length + minSize) with hlong | hle
  · rw [if_pos hlong]
    exact ⟨fun h => (by cases h), fun ⟨hle, _⟩ => absurd hle (Nat.not_le.2 hlong)⟩
  · rw [if_neg (Nat.not_lt.2 hle), Except.ok.injEq]
    exact ⟨fun h => ⟨hle, h⟩, And.right⟩

/-- A payload is put behind the seven bytes of its header. -/
theorem adtsFrame_of_le (h : payload.length + minSize ≤ maxFrameLength) :
    adtsFrame profile rateIndex channelConfig payload =
      .ok ((octets profile rateIndex channelConfig (payload.length + minSize)).map UInt8.ofNat ++
        payload) :=
  adtsFrame_eq_ok_iff.2 ⟨h, by rw [toBytes_bits_forPayload h]⟩

lemma length_adtsFrame (h : adtsFrame profile rateIndex channelConfig payload = .ok frame) :
    frame.length = payload.length + minSize := by
  obtain ⟨-, rfl⟩ := adtsFrame_eq_ok_iff.1 h
  rw [List.length_append, length_toBytes_of_dvd (dvd_length_bits_forPayload ..),
    length_bits_forPayload, Nat.mul_div_cancel_left _ (Nat.succ_pos 7), Nat.add_comm]

/-- The first frame of a run is taken off just if its header is usable and the run covers it. -/
lemma takeAdtsFrame_eq_ok_iff {data rest : Bytes} :
    takeAdtsFrame data = .ok (payload, rest) ↔
      ∃ header, parse data = .ok header ∧ header.layer = 0 ∧ header.size ≤ header.frameLength ∧
        header.frameLength ≤ data.length ∧
        payload = (data.take header.frameLength).drop header.size ∧
        rest = data.drop header.frameLength := by
  unfold takeAdtsFrame
  cases hparse : parse data with
  | error e =>
    constructor
    · intro h
      cases h
    · rintro ⟨_, h, -⟩
      cases h
  | ok header =>
    show (if header.layer ≠ 0 then _ else if header.frameLength < header.size then _
      else if data.length < header.frameLength then _ else _) = _ ↔ _
    constructor
    · intro h
      by_cases hlayer : header.layer ≠ 0
      · rw [if_pos hlayer] at h
        cases h
      by_cases hsize : header.frameLength < header.size
      · rw [if_neg hlayer, if_pos hsize] at h
        cases h
      by_cases hbuffer : data.length < header.frameLength
      · rw [if_neg hlayer, if_neg hsize, if_pos hbuffer] at h
        cases h
      rw [if_neg hlayer, if_neg hsize, if_neg hbuffer] at h
      cases h
      exact ⟨header, rfl, not_not.1 hlayer, Nat.not_lt.1 hsize, Nat.not_lt.1 hbuffer, rfl, rfl⟩
    · rintro ⟨_, ⟨⟩, hlayer, hsize, hbuffer, rfl, rfl⟩
      rw [if_neg (not_not.2 hlayer), if_neg (Nat.not_lt.2 hsize), if_neg (Nat.not_lt.2 hbuffer)]
      rfl

end

end LiveMedia.Aac
