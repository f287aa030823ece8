import LiveMedia.Nal.Framing

set_option autoImplicit false

/-!
# Byte streams

In a byte stream NAL units stand between start codes. A buffer falls apart into the bytes before
its first start code and the units behind each code; the four-byte code wins over a zero byte in
front of a three-byte one.

## Main definitions

* `LiveMedia.Nal.ByteStream` — a buffer taken apart at its start codes.
* `LiveMedia.Nal.ByteStream.parse` — takes a buffer apart; every buffer has this form.
* `LiveMedia.Nal.scan` — the fragment index of a buffer.

## Main results

* `LiveMedia.Nal.ByteStream.bytes_parse` — no byte is lost.
-/

namespace LiveMedia.Nal

/-- A buffer taken apart at its start codes. -/
structure ByteStream where
  /-- The bytes before the first start code. -/
  lead : Bytes
  /-- Each start code with the bytes up to the next one. -/
  units : List (StartCode × Bytes)
  deriving DecidableEq, Repr

namespace ByteStream

/-- The buffer that a byte stream stands for. -/
def bytes (s : ByteStream) : Bytes :=
  s.lead ++ s.units.flatMap fun u => u.1.bytes ++ u.2

/-- The stream with a start code put in front: its leading bytes become a unit. -/
def underCode (s : ByteStream) (code : StartCode) : ByteStream :=
  ⟨[], (code, s.lead) :: s.units⟩

/-- The stream with a byte put in front. -/
def underByte (s : ByteStream) (b : UInt8) : ByteStream :=
  ⟨b :: s.lead, s.units⟩

/-- Takes a buffer apart at its start codes, from front to back. -/
def parse : Bytes → ByteStream
  | 0 :: 0 :: 0 :: 1 :: rest => (parse rest).underCode .long
  | 0 :: 0 :: 1 :: rest => (parse rest).underCode .short
  | b :: rest => (parse rest).underByte b
  | [] => ⟨[], []⟩

/-- Start codes and units together are the whole buffer. -/
theorem bytes_parse (data : Bytes) : (parse data).bytes = data := by
  fun_induction parse data with
  | case1 rest ih => simpa [bytes, underCode, StartCode.bytes] using ih
  | case2 rest ih => simpa [bytes, underCode, StartCode.bytes] using ih
  | case3 b rest _ _ ih => simpa [bytes, underByte] using ih
  | case4 => rfl

/-- The places of units that follow `offset` bytes. -/
def indexFrom : (offset : Nat) → List (StartCode × Bytes) → FragmentIndex
  | _, [] => []
  | offset, (code, nal) :: rest =>
    ⟨offset + code.size, nal.length⟩ :: indexFrom (offset + code.size + nal.length) rest

/-- The places of the NAL units. Bytes before the first start code count as one; a unit between
two adjacent codes is listed with length zero. -/
def index (s : ByteStream) : FragmentIndex :=
  (if s.lead.isEmpty then [] else [⟨0, s.lead.length⟩]) ++ indexFrom s.lead.length s.units

/-- The NAL units, in order, the empty ones included. -/
def nals (s : ByteStream) : List Bytes :=
  (if s.lead.isEmpty then [] else [s.lead]) ++ s.units.map Prod.snd

end ByteStream

/-- The fragment index of a buffer of NAL units between start codes. -/
def scan (data : Bytes) : FragmentIndex :=
  (ByteStream.parse data).index

end LiveMedia.Nal
