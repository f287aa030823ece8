import LiveMedia.Bytes
import LiveMedia.Error

set_option autoImplicit false

/-!
# Fragment indexes

A fragment index says where the NAL units of a payload lie, in payload order. Indexes also come
from callers, with offsets and lengths that need not fit the payload or even each other.

## Main definitions

* `LiveMedia.Nal.Fragment` — the byte range of one NAL unit.
* `LiveMedia.Nal.FragmentIndex` — the ranges of a payload.
* `LiveMedia.Nal.FragmentIndex.checkConsistent` — the ranges are sorted, disjoint and inside.
* `LiveMedia.Nal.FragmentIndex.units` — the bytes of the ranges.
-/

namespace LiveMedia.Nal

/-- The number of byte offsets that a 64-bit word can hold. -/
def addressSpace : Nat := 0x10000000000000000

/-- The byte range of one NAL unit inside a payload. -/
structure Fragment where
  offset : Nat
  length : Nat
  deriving DecidableEq, Repr

namespace Fragment

/-- The offset just behind the range. -/
def stop (f : Fragment) : Nat :=
  f.offset + f.length

/-- The offset just behind the range, if a machine word can hold it. -/
def checkedStop (f : Fragment) : Except MediaError Nat :=
  if f.stop < addressSpace then .ok f.stop else .error .overflow

end Fragment

/-- The byte ranges of the NAL units of a payload, in payload order. -/
abbrev FragmentIndex := List Fragment

namespace FragmentIndex

/-- The ranges start at or behind `start`, in order and without overlap, and end inside a payload
of `size` bytes. -/
def checkFrom (size : Nat) : (start : Nat) → FragmentIndex → Except MediaError Bool
  | _, [] => .ok true
  | start, f :: rest =>
    if f.offset < start then
      .ok false
    else do
      let stop ← f.checkedStop
      if size < stop then .ok false else checkFrom size stop rest

/-- The ranges are sorted, disjoint and inside a payload of `size` bytes. -/
def checkConsistent (index : FragmentIndex) (size : Nat) : Except MediaError Bool :=
  checkFrom size 0 index

/-- The bytes of every range that lies inside the payload. -/
def units (index : FragmentIndex) (payload : Bytes) : List Bytes :=
  index.filterMap fun f => Bytes.slice? payload f.offset f.length

end FragmentIndex

end LiveMedia.Nal
