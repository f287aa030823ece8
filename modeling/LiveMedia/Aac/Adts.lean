import LiveMedia.Aac.Frequency
import LiveMedia.Bits.Cursor

set_option autoImplicit false

/-!
# ADTS frames

An ADTS frame is an AAC access unit behind a header of seven bytes, or nine with a checksum, that
repeats the configuration of the track and tells the length of the frame.

## Main definitions

* `LiveMedia.Aac.AdtsHeader` — the fields of a header.
* `LiveMedia.Aac.AdtsHeader.bits`, `LiveMedia.Aac.AdtsHeader.parse` — a header as it is written,
  and its reader.
* `LiveMedia.Aac.adtsFrame` — an access unit in a frame.
* `LiveMedia.Aac.adtsPayloads` — the access units of a run of frames.
* `LiveMedia.Aac.adtsToRaw` — the same, laid end to end.
-/

namespace LiveMedia.Aac

open Bits

/-! ## Headers -/

/-- The fields of a header. -/
structure AdtsHeader where
  mpeg2 : Bool
  layer : Nat
  /-- No checksum follows. -/
  protectionAbsent : Bool
  /-- The object type less one. -/
  profile : Nat
  rateIndex : Nat
  privateBit : Bool
  channelConfig : Nat
  originalCopy : Bool
  home : Bool
  /-- One bit of the number that identifies the recording. -/
  identificationBit : Bool
  /-- That number starts in this frame. -/
  identificationStart : Bool
  /-- The number of bytes of header and payload together. -/
  frameLength : Nat
  fullness : Nat
  /-- The number of raw data blocks less one. -/
  blocks : Nat
  crc : Option Nat
  deriving DecidableEq, Repr

namespace AdtsHeader

/-- The twelve bits that every header starts with. -/
def syncword : Nat := 0xFFF

/-- The number of bytes of a header without a checksum. -/
def minSize : Nat := 7

/-- The number of bytes of a header with a checksum. -/
def protectedSize : Nat := 9

/-- The largest frame length that a header can hold. -/
def maxFrameLength : Nat := 0x1FFF

/-- The header as it is written. Fields that are too wide lose their high bits. -/
def bits (h : AdtsHeader) : List Bool :=
  ofNat 12 syncword ++ [h.mpeg2] ++ ofNat 2 h.layer ++ [h.protectionAbsent] ++
    ofNat 2 h.profile ++ ofNat 4 h.rateIndex ++ [h.privateBit] ++ ofNat 3 h.channelConfig ++
    [h.originalCopy, h.home, h.identificationBit, h.identificationStart] ++
    ofNat 13 h.frameLength ++ ofNat 11 h.fullness ++ ofNat 2 h.blocks ++
    h.crc.elim [] (ofNat 16)

section

variable {σ : Type} [BitSource σ]

/-- Reads the bits that every header starts with. -/
def readSyncword : Read σ Unit := do
  let word ← readBits 12
  if word = syncword then
    pure ()
  else
    throw (.invalid .adtsSyncword)

/-- Reads the checksum, if there is one. -/
def readCrc (protectionAbsent : Bool) : Read σ (Option Nat) :=
  if protectionAbsent then pure none else some <$> readBits 16

/-- Reads a header. -/
def read : Read σ AdtsHeader := do
  readSyncword
  let mpeg2 ← readBit
  let layer ← readBits 2
  let protectionAbsent ← readBit
  let profile ← readBits 2
  let rateIndex ← readBits 4
  let privateBit ← readBit
  let channelConfig ← readBits 3
  let originalCopy ← readBit
  let home ← readBit
  let identificationBit ← readBit
  let identificationStart ← readBit
  let frameLength ← readBits 13
  let fullness ← readBits 11
  let blocks ← readBits 2
  let crc ← readCrc protectionAbsent
  pure {
    mpeg2, layer, protectionAbsent, profile, rateIndex, privateBit, channelConfig, originalCopy,
    home, identificationBit, identificationStart, frameLength, fullness, blocks, crc }

end

/-- Parses the header at the start of `data`. -/
def parse (data : Bytes) : Except MediaError AdtsHeader :=
  if data.length < minSize then
    .error .truncated
  else
    (read.run { data := data : BitCursor }).1

/-- The number of bytes of the header. -/
def size (h : AdtsHeader) : Nat :=
  if h.protectionAbsent then minSize else protectedSize

theorem size_pos (h : AdtsHeader) : 0 < h.size := by
  unfold size
  split <;> decide

/-- The number of payload bytes; none if the frame length does not cover the header. -/
def payloadLength? (h : AdtsHeader) : Option Nat :=
  if h.size ≤ h.frameLength then some (h.frameLength - h.size) else none

/-- The sampling frequency in Hz. -/
def rate? (h : AdtsHeader) : Option Nat :=
  samplingFrequency? h.rateIndex

/-- The layer is zero, the frequency is standard and the frame length covers the header. -/
def isValid (h : AdtsHeader) : Bool :=
  h.layer == 0 && h.rate?.isSome && h.payloadLength?.isSome

/-- The header in front of `payloadLength` bytes: MPEG-4, no checksum, the fullness that means a
variable rate, and one data block. -/
def forPayload (profile rateIndex channelConfig payloadLength : Nat) : AdtsHeader where
  mpeg2 := false
  layer := 0
  protectionAbsent := true
  profile := profile
  rateIndex := rateIndex
  privateBit := false
  channelConfig := channelConfig
  originalCopy := false
  home := false
  identificationBit := false
  identificationStart := false
  frameLength := payloadLength + minSize
  fullness := 0x7FF
  blocks := 0
  crc := none

end AdtsHeader

/-! ## Frames -/

/-- An access unit in a frame; the length has to fit its field. -/
def adtsFrame (profile rateIndex channelConfig : Nat) (payload : Bytes) :
    Except MediaError Bytes :=
  let header := AdtsHeader.forPayload profile rateIndex channelConfig payload.length
  if AdtsHeader.maxFrameLength < header.frameLength then
    .error (.invalid .adtsTooLong)
  else
    .ok (toBytes header.bits ++ payload)

/-- The first frame of a run: its payload and what follows it. -/
def takeAdtsFrame (data : Bytes) : Except MediaError (Bytes × Bytes) := do
  let header ← AdtsHeader.parse data
  if header.layer ≠ 0 then
    throw (.invalid .adtsLayer)
  if header.frameLength < header.size then
    throw (.invalid .adtsTooShort)
  if data.length < header.frameLength then
    throw (.invalid .adtsExceedsBuffer)
  pure ((data.take header.frameLength).drop header.size, data.drop header.frameLength)

/-- A frame takes at least one byte off the run. -/
theorem length_lt_of_takeAdtsFrame {data payload rest : Bytes}
    (h : takeAdtsFrame data = .ok (payload, rest)) : rest.length < data.length := by
  unfold takeAdtsFrame at h
  cases hp : AdtsHeader.parse data with
  | error e => rw [hp] at h; cases h
  | ok header =>
    rw [hp] at h
    by_cases hl : header.layer ≠ 0
    · simp [bind, Except.bind, hl, throw, throwThe, MonadExceptOf.throw] at h
    by_cases hs : header.frameLength < header.size
    · simp [bind, Except.bind, hl, hs, throw, throwThe, MonadExceptOf.throw] at h
    by_cases hd : data.length < header.frameLength
    · simp [bind, Except.bind, hl, hs, hd, throw, throwThe, MonadExceptOf.throw] at h
    simp only [bind, Except.bind, hl, hs, hd, if_false, pure, Except.pure, Except.ok.injEq,
      Prod.mk.injEq] at h
    have := header.size_pos
    rw [← h.2, List.length_drop]
    omega

/-- The access units of a run of frames. -/
def adtsPayloads (data : Bytes) : Except MediaError (List Bytes) :=
  if data.isEmpty then
    .ok []
  else
    match _h : takeAdtsFrame data with
    | .error e => .error e
    | .ok (payload, rest) =>
      match adtsPayloads rest with
      | .error e => .error e
      | .ok payloads => .ok (payload :: payloads)
termination_by data.length
decreasing_by exact length_lt_of_takeAdtsFrame ‹_›

/-- Access units laid end to end, and how long each of them is. -/
structure RawUnits where
  data : Bytes
  lengths : List Nat
  deriving DecidableEq, Repr

/-- The access units of a run of frames, laid end to end. -/
def adtsToRaw (data : Bytes) : Except MediaError RawUnits :=
  (adtsPayloads data).map fun payloads => ⟨payloads.flatten, payloads.map List.length⟩

end LiveMedia.Aac
