import LiveMedia.Nal.Framing

set_option autoImplicit false

/-!
# Length-prefixed NAL units

Each unit stands behind its length, a big-endian number of one to four bytes.

## Main definitions

* `LiveMedia.Nal.PrefixWidth` — the number of bytes of a length.
* `LiveMedia.Nal.splitLengthPrefixed` — the units of a buffer up to the first fault.
* `LiveMedia.Nal.readLengthPrefixed` — all units of a well-formed buffer.
* `LiveMedia.Nal.UnitReader` — a reader that is asked for one unit after another.
-/

namespace LiveMedia.Nal

/-- The number of bytes of a length prefix, one to four. -/
structure PrefixWidth where
  bytes : Nat
  pos : 0 < bytes
  le_four : bytes ≤ 4
  deriving DecidableEq, Repr

/-- The width nearest to `n`. -/
def PrefixWidth.clamp (n : Nat) : PrefixWidth where
  bytes := min (max n 1) 4
  pos := by omega
  le_four := by omega

/-- The widest prefix, four bytes. -/
def PrefixWidth.four : PrefixWidth := PrefixWidth.clamp 4

/-- The units read from a buffer, and what stopped the reading before its end. -/
structure SplitUnits where
  units : List Bytes
  fault : Option MediaError
  deriving DecidableEq, Repr

/-- A split with one more unit in front. -/
def SplitUnits.cons (nal : Bytes) (s : SplitUnits) : SplitUnits :=
  { s with units := nal :: s.units }

/-- The units of a buffer up to the first fault: a prefix cut short, or a length that exceeds the
bytes behind it. -/
def splitLengthPrefixed (width : PrefixWidth) (data : Bytes) : SplitUnits :=
  if data.isEmpty then
    ⟨[], none⟩
  else if data.length < width.bytes then
    ⟨[], some .truncated⟩
  else
    let length := Bytes.toNatBE (data.take width.bytes)
    let rest := data.drop width.bytes
    if rest.length < length then
      ⟨[], some (.invalid .nalLengthExceeds)⟩
    else
      (splitLengthPrefixed width (rest.drop length)).cons (rest.take length)
termination_by data.length
decreasing_by
  have := width.pos
  simp only [List.length_drop]
  omega

/-- All units of a buffer, if it is well-formed to its end. -/
def readLengthPrefixed (width : PrefixWidth) (data : Bytes) : Except MediaError (List Bytes) :=
  let s := splitLengthPrefixed width data
  match s.fault with
  | some e => .error e
  | none => .ok s.units

/-! ## Unit by unit -/

/-- A reader that is asked for one unit after another. -/
structure UnitReader where
  width : PrefixWidth
  data : Bytes
  /-- Where the next length starts. -/
  offset : Nat := 0
  /-- A fault has been met, and no more is read. -/
  failed : Bool := false
  deriving DecidableEq, Repr

/-- The next unit or the fault in its place, and the reader behind it. Once the buffer has been read
or a fault has been met there is neither. -/
def UnitReader.next (r : UnitReader) : Option (Except MediaError Bytes) × UnitReader :=
  if r.failed || decide (r.data.length ≤ r.offset) then
    (none, r)
  else
    match Bytes.slice? r.data r.offset r.width.bytes with
    | none => (some (.error .truncated), { r with failed := true })
    | some header =>
      let start := r.offset + r.width.bytes
      let length := Bytes.toNatBE header
      match Bytes.slice? r.data start length with
      | none =>
        (some (.error (.invalid .nalLengthExceeds)), { r with offset := start, failed := true })
      | some nal => (some (.ok nal), { r with offset := start + length })

end LiveMedia.Nal
