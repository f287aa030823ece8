import LiveMedia.Proofs.Aac.Adts
import Mathlib.Algebra.BigOperators.Group.List.Basic
import Mathlib.Algebra.GroupWithZero.Nat

set_option autoImplicit false

/-!
# Runs of ADTS frames

A run of frames is taken apart just if it is one: frame after frame, each a header of layer zero that
fits its fields and covers itself, with as many bytes behind it as it tells. The frames that access
units are put into are of this form, with the fields they were given.

## Main definitions

* `LiveMedia.Aac.Frame` — a whole frame, with its header and its payload.
* `LiveMedia.Aac.FrameUnit` — an access unit that a frame can hold, and the fields of its header.

## Main results

* `LiveMedia.Aac.takeAdtsFrame_eq_ok_iff_frame`, `LiveMedia.Aac.adtsPayloads_eq_ok_iff` — what is
  taken off a run, and which runs are taken apart.
* `LiveMedia.Aac.parse_adtsFrame`, `LiveMedia.Aac.adtsPayloads_adtsFrame_append` — the header and
  the payload of a frame.
* `LiveMedia.Aac.adtsToRaw_of_frames` — the grammar of runs, and the way back from frames.
-/

namespace LiveMedia.Aac

open Bits AdtsHeader

/-! ## Frames -/

/-- The bits of a header that fits fill the bytes that it takes. -/
lemma AdtsHeader.Fits.length_bits {h : AdtsHeader} (hfits : h.Fits) :
    h.bits.length = 8 * h.size := by
  rw [AdtsHeader.length_bits, size, ← hfits.protection]
  cases h.crc with
  | none => rfl
  | some c => rfl

lemma AdtsHeader.Fits.length_toBytes {h : AdtsHeader} (hfits : h.Fits) :
    (toBytes h.bits).length = h.size := by
  rw [length_toBytes_of_dvd ⟨_, hfits.length_bits⟩, hfits.length_bits,
    Nat.mul_div_cancel_left _ (Nat.succ_pos 7)]

/-- A whole frame: a header of layer zero, and behind it as many bytes as it tells. -/
structure Frame where
  header : AdtsHeader
  payload : Bytes
  fits : header.Fits
  layer : header.layer = 0
  frameLength : header.frameLength = header.size + payload.length

namespace Frame

/-- The frame as it is written. -/
def bytes (f : Frame) : Bytes :=
  toBytes f.header.bits ++ f.payload

lemma length_bytes (f : Frame) : f.bytes.length = f.header.frameLength := by
  rw [bytes, List.length_append, f.fits.length_toBytes, f.frameLength]

lemma length_bytes_eq (f : Frame) : f.bytes.length = f.header.size + f.payload.length := by
  rw [f.length_bytes, f.frameLength]

/-- The header of a frame is parsed, whatever follows the frame. -/
lemma parse_bytes_append (f : Frame) (rest : Bytes) : parse (f.bytes ++ rest) = .ok f.header := by
  refine parse_eq_ok_iff.2 ⟨f.fits, ofBytes (f.payload ++ rest), ?_⟩
  rw [bytes, List.append_assoc, ofBytes_append (toBytes _),
    ofBytes_toBytes_of_dvd ⟨_, f.fits.length_bits⟩]

end Frame

/-! ## Runs of frames -/

section

variable {data payload rest : Bytes} {payloads : List Bytes}

/-- **A frame is taken off a run just if the run begins with a whole frame.** -/
lemma takeAdtsFrame_eq_ok_iff_frame : takeAdtsFrame data = .ok (payload, rest) ↔
    ∃ f : Frame, f.payload = payload ∧ data = f.bytes ++ rest := by
  rw [takeAdtsFrame_eq_ok_iff]
  constructor
  · rintro ⟨header, hparse, hlayer, hsize, hbuffer, rfl, rfl⟩
    obtain ⟨hfits, hbits⟩ := parse_eq_ok_iff.1 hparse
    obtain ⟨behind, hdata⟩ := exists_eq_toBytes_append hbits ⟨_, hfits.length_bits⟩
    subst data
    have hheader := hfits.length_toBytes
    set payload := behind.take (header.frameLength - header.size) with hpayload
    have htake : (toBytes header.bits ++ behind).take header.frameLength =
        toBytes header.bits ++ payload := by
      rw [List.take_append, hheader, List.take_of_length_le (hheader.trans_le hsize)]
    have hcovered : header.frameLength = header.size + payload.length := by
      rw [List.length_append, hheader] at hbuffer
      rw [hpayload, List.length_take_of_le (by omega)]
      omega
    refine ⟨⟨header, payload, hfits, hlayer, hcovered⟩, ?_, ?_⟩
    · rw [htake, List.drop_left' hheader]
    · show _ = (toBytes header.bits ++ payload) ++ _
      rw [← htake, List.take_append_drop]
  · rintro ⟨f, rfl, hdata⟩
    subst data
    refine ⟨f.header, f.parse_bytes_append rest, f.layer, ?_, ?_, ?_, ?_⟩
    · rw [f.frameLength]
      exact Nat.le_add_right _ _
    · rw [List.length_append, f.length_bytes]
      exact Nat.le_add_right _ _
    · rw [List.take_left' f.length_bytes, Frame.bytes, List.drop_left' f.fits.length_toBytes]
    · rw [List.drop_left' f.length_bytes]

/-- Bytes are a whole frame just if they begin with a header of layer zero that covers itself and
tells their number. -/
lemma exists_frame_iff {frame : Bytes} : (∃ f : Frame, f.bytes = frame) ↔
    ∃ header, parse frame = .ok header ∧ header.layer = 0 ∧ header.size ≤ header.frameLength ∧
      header.frameLength = frame.length := by
  constructor
  · rintro ⟨f, rfl⟩
    have hparse := f.parse_bytes_append []
    rw [List.append_nil] at hparse
    exact ⟨f.header, hparse, f.layer, f.frameLength ▸ Nat.le_add_right _ _, f.length_bytes.symm⟩
  · rintro ⟨header, hparse, hlayer, hsize, hlength⟩
    have htake : takeAdtsFrame frame = .ok (frame.drop header.size, []) :=
      takeAdtsFrame_eq_ok_iff.2 ⟨header, hparse, hlayer, hsize, Nat.le_of_eq hlength,
        by rw [hlength, List.take_length], by rw [hlength, List.drop_length]⟩
    obtain ⟨f, -, hf⟩ := takeAdtsFrame_eq_ok_iff_frame.1 htake
    exact ⟨f, by rw [hf, List.append_nil]⟩

lemma Frame.bytes_append_ne_nil (f : Frame) (rest : Bytes) : f.bytes ++ rest ≠ [] := by
  have hpos := f.header.size_pos
  have hlen := f.length_bytes_eq
  refine List.append_ne_nil_of_left_ne_nil (List.ne_nil_of_length_pos ?_) rest
  omega

lemma adtsPayloads_nil : adtsPayloads [] = .ok [] := by
  rw [adtsPayloads]
  rfl

/-- A whole frame in front of a run gives its payload. -/
lemma adtsPayloads_frame_append (f : Frame) (rest : Bytes) :
    adtsPayloads (f.bytes ++ rest) = (adtsPayloads rest).map (f.payload :: ·) := by
  have htake : takeAdtsFrame (f.bytes ++ rest) = .ok (f.payload, rest) :=
    takeAdtsFrame_eq_ok_iff_frame.2 ⟨f, rfl, rfl⟩
  rw [adtsPayloads, if_neg (by simpa using f.bytes_append_ne_nil rest)]
  split
  · next e htake' =>
    rw [htake] at htake'
    cases htake'
  · next payload' rest' htake' =>
    rw [htake] at htake'
    cases htake'
    cases adtsPayloads rest <;> rfl

/-- **A run is taken apart just if it is a run of whole frames.**

**Proof sketch.** Induction along the run: each frame that is taken off is a whole frame
(`takeAdtsFrame_eq_ok_iff_frame`), and a run of whole frames begins with one. -/
theorem adtsPayloads_eq_ok_iff : adtsPayloads data = .ok payloads ↔
    ∃ frames : List Frame, data = frames.flatMap Frame.bytes ∧
      payloads = frames.map Frame.payload := by
  constructor
  · intro h
    fun_induction adtsPayloads data generalizing payloads with
    | case1 data hempty =>
      cases h
      exact ⟨[], List.isEmpty_iff.1 hempty, rfl⟩
    | case2 => cases h
    | case3 => cases h
    | case4 data _ payload rest htake payloads' hrest ih =>
      cases h
      obtain ⟨f, rfl, hdata⟩ := takeAdtsFrame_eq_ok_iff_frame.1 htake
      subst data
      obtain ⟨frames, rfl, rfl⟩ := ih hrest
      exact ⟨f :: frames, rfl, rfl⟩
  · rintro ⟨frames, rfl, rfl⟩
    induction frames with
    | nil => rw [List.flatMap_nil, adtsPayloads_nil, List.map_nil]
    | cons f frames ih =>
      rw [List.flatMap_cons, adtsPayloads_frame_append, ih]
      rfl

/-- **What is taken apart, laid end to end.** -/
theorem adtsToRaw_eq_ok_iff {raw : RawUnits} : adtsToRaw data = .ok raw ↔
    ∃ frames : List Frame, data = frames.flatMap Frame.bytes ∧
      raw = ⟨frames.flatMap Frame.payload, frames.map (·.payload.length)⟩ := by
  rw [adtsToRaw]
  constructor
  · intro h
    cases hpayloads : adtsPayloads data with
    | error e =>
      rw [hpayloads] at h
      cases h
    | ok payloads =>
      rw [hpayloads] at h
      cases h
      obtain ⟨frames, hdata, rfl⟩ := adtsPayloads_eq_ok_iff.1 hpayloads
      refine ⟨frames, hdata, ?_⟩
      dsimp only
      rw [List.flatMap_def, List.map_map]
      rfl
  · rintro ⟨frames, hdata, rfl⟩
    rw [adtsPayloads_eq_ok_iff.2 ⟨frames, hdata, rfl⟩, List.flatMap_def]
    simp only [Except.map, List.map_map]
    rfl

end

/-! ## Access units in frames -/

section

variable {profile rateIndex channelConfig : Nat} {payload frame : Bytes}

/-- An access unit is put into a whole frame, whose header has the low bits of the channel
configuration. -/
lemma exists_frame_of_adtsFrame (hprofile : profile < 4) (hrate : rateIndex < 16)
    (h : adtsFrame profile rateIndex channelConfig payload = .ok frame) :
    ∃ f : Frame, f.header = forPayload profile rateIndex (channelConfig % 8) payload.length ∧
      f.payload = payload ∧ f.bytes = frame := by
  obtain ⟨hlength, rfl⟩ := adtsFrame_eq_ok_iff.1 h
  have hfits : (forPayload profile rateIndex (channelConfig % 8) payload.length).Fits :=
    fits_forPayload hprofile hrate (Nat.mod_lt _ (Nat.succ_pos 7)) hlength
  refine ⟨⟨_, payload, hfits, rfl, Nat.add_comm _ _⟩, rfl, rfl, ?_⟩
  rw [bits_forPayload_mod]
  rfl

/-- The header of a frame is parsed, with the low bits of the channel configuration. -/
theorem parse_adtsFrame (hprofile : profile < 4) (hrate : rateIndex < 16)
    (h : adtsFrame profile rateIndex channelConfig payload = .ok frame) (rest : Bytes) :
    parse (frame ++ rest) =
      .ok (forPayload profile rateIndex (channelConfig % 8) payload.length) := by
  obtain ⟨f, hheader, -, rfl⟩ := exists_frame_of_adtsFrame hprofile hrate h
  rw [f.parse_bytes_append, hheader]

/-- A frame in front of a run gives its payload. -/
theorem adtsPayloads_adtsFrame_append (hprofile : profile < 4) (hrate : rateIndex < 16)
    (h : adtsFrame profile rateIndex channelConfig payload = .ok frame) (rest : Bytes) :
    adtsPayloads (frame ++ rest) = (adtsPayloads rest).map (payload :: ·) := by
  obtain ⟨f, -, rfl, rfl⟩ := exists_frame_of_adtsFrame hprofile hrate h
  exact adtsPayloads_frame_append f rest

end

/-- An access unit that a frame can hold, and the fields of its header. -/
structure FrameUnit where
  profile : Fin 4
  rateIndex : Fin 16
  channelConfig : Fin 8
  payload : Bytes
  length_le : payload.length ≤ 8184

namespace FrameUnit

/-- The frame of an access unit. -/
def frame (u : FrameUnit) : Frame where
  header := forPayload u.profile u.rateIndex u.channelConfig u.payload.length
  payload := u.payload
  fits := fits_forPayload u.profile.isLt u.rateIndex.isLt u.channelConfig.isLt
    (Nat.add_le_add_right u.length_le 7)
  layer := rfl
  frameLength := Nat.add_comm _ _

/-- An access unit is put into its frame. -/
lemma adtsFrame_eq (u : FrameUnit) :
    adtsFrame u.profile u.rateIndex u.channelConfig u.payload = .ok u.frame.bytes :=
  adtsFrame_eq_ok_iff.2 ⟨Nat.add_le_add_right u.length_le 7, rfl⟩

end FrameUnit

/-- **Runs of frames are taken apart just by their grammar, and give back what was framed.** Access
units of up to 8184 bytes are put into frames. The header of such a frame tells the profile, the
rate index and the channel configuration it was given, the length of the frame, a fullness of `0x7FF`
and one data block, without a checksum; and frames of this kind one after another give back the
access units end to end, with their lengths. Any byte string is taken apart just if it is a run of
whole frames: what is left are their payloads end to end, the lengths add up to what is left, and
together with the headers they account for every byte. Whole frames are the byte strings that begin
with a header that is parsed, of layer zero, and that have the length it tells, at least its own.

**Proof sketch.** What is taken off a run is a whole frame (`takeAdtsFrame_eq_ok_iff_frame`), so the
runs that are taken apart are those of whole frames (`adtsPayloads_eq_ok_iff`). The frame of an
access unit is a whole one, whose header is that of the payload (`FrameUnit.frame`). -/
theorem adtsToRaw_of_frames (units : List FrameUnit) (data : Bytes) :
    (∃ frames : List Bytes,
      (units.map fun u => adtsFrame u.profile u.rateIndex u.channelConfig u.payload) =
        frames.map .ok ∧
      adtsToRaw frames.flatten =
        .ok ⟨units.flatMap FrameUnit.payload, units.map (·.payload.length)⟩) ∧
    (∀ u : FrameUnit, ∃ frame header,
      adtsFrame u.profile u.rateIndex u.channelConfig u.payload = .ok frame ∧
      parse frame = .ok header ∧ header.profile = u.profile ∧ header.rateIndex = u.rateIndex ∧
      header.channelConfig = u.channelConfig ∧ header.frameLength = u.payload.length + 7 ∧
      header.fullness = 0x7FF ∧ header.blocks = 0 ∧ header.crc = none) ∧
    (∀ frame : Bytes, (∃ f : Frame, f.bytes = frame) ↔ ∃ header, parse frame = .ok header ∧
      header.layer = 0 ∧ header.size ≤ header.frameLength ∧
      header.frameLength = frame.length) ∧
    ∀ raw : RawUnits, adtsToRaw data = .ok raw ↔ ∃ frames : List Frame,
      data = frames.flatMap Frame.bytes ∧ raw.data = frames.flatMap Frame.payload ∧
      raw.lengths = frames.map (·.payload.length) ∧ raw.lengths.sum = raw.data.length ∧
      (frames.map (·.header.size)).sum + raw.lengths.sum = data.length := by
  refine ⟨⟨units.map (·.frame.bytes), ?_, ?_⟩, ?_, fun _ => exists_frame_iff, fun raw => ?_⟩
  · rw [List.map_map]
    exact List.map_congr_left fun u _ => u.adtsFrame_eq
  · refine adtsToRaw_eq_ok_iff.2 ⟨units.map FrameUnit.frame, ?_, ?_⟩
    · rw [List.flatMap_def, List.map_map]
      rfl
    · rw [List.flatMap_map, List.map_map]
      rfl
  · intro u
    have hparse := u.frame.parse_bytes_append []
    rw [List.append_nil] at hparse
    exact ⟨u.frame.bytes, u.frame.header, u.adtsFrame_eq, hparse, rfl, rfl, rfl, rfl, rfl, rfl, rfl⟩
  · rw [adtsToRaw_eq_ok_iff]
    constructor
    · rintro ⟨frames, rfl, rfl⟩
      refine ⟨frames, rfl, rfl, rfl, (List.length_flatMap ..).symm, ?_⟩
      rw [List.length_flatMap, ← List.sum_map_add]
      exact congrArg List.sum (List.map_congr_left fun f _ => f.length_bytes_eq.symm)
    · rintro ⟨frames, hdata, hraw, hlengths, -, -⟩
      exact ⟨frames, hdata, by rw [← hraw, ← hlengths]⟩

end LiveMedia.Aac
