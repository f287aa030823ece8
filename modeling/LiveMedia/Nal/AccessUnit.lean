import LiveMedia.Nal.LengthPrefix

set_option autoImplicit false

/-!
# Access units

A decoder can start at a keyframe only if it has the parameter sets. When a length-prefixed
access unit with a keyframe carries none of its own, those of the track's configuration are put
in front of it.

## Main definitions

* `LiveMedia.Nal.UnitKind` — what a codec says about a NAL unit.
* `LiveMedia.Nal.AccessUnit` — an access unit between start codes.
* `LiveMedia.Nal.AccessUnit.ofLengthPrefixed` — from lengths to start codes.
-/

namespace LiveMedia.Nal

/-- What a codec says about a NAL unit. -/
structure UnitKind where
  isKeyframe : Bytes → Bool
  isParameterSet : Bytes → Bool

/-- An access unit between start codes. -/
structure AccessUnit where
  payload : Bytes
  index : FragmentIndex
  keyframe : Bool
  deriving DecidableEq, Repr

/-- The parameter sets put in front of `nals`: all of `sets` if there is a keyframe among the
units and no parameter set, else none. -/
def injectedSets (kind : UnitKind) (sets nals : List Bytes) : List Bytes :=
  if nals.any kind.isKeyframe && !nals.any kind.isParameterSet then sets else []

/-- A length-prefixed access unit with start codes for lengths, and with the parameter sets `sets`
in front if a keyframe needs them. -/
def AccessUnit.ofLengthPrefixed (kind : UnitKind) (width : PrefixWidth) (sets : List Bytes)
    (data : Bytes) : Except MediaError AccessUnit := do
  let nals ← readLengthPrefixed width data
  let framed := (Framing.startCode .long).frame (injectedSets kind sets nals ++ nals)
  pure ⟨framed.data, framed.index, nals.any kind.isKeyframe⟩

end LiveMedia.Nal
