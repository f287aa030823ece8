import LiveMedia.Nal.Fragment
import LiveMedia.Timebase

set_option autoImplicit false

/-!
# Packets and tracks

A stream is made of tracks. Each packet carries one access unit of one track, or its decoder
configuration, with the timestamps in units of a timebase.

## Main definitions

* `LiveMedia.Packet` — one packet of one track.
* `LiveMedia.TrackInfo` — the declaration of a track.
-/

namespace LiveMedia

/-- The number of a track, unique within its stream. -/
abbrev TrackId := Nat

/-- What the payload of a packet is to its track. -/
inductive PacketKind where
  /-- A decoder configuration. -/
  | sequenceHeader
  /-- One access unit. -/
  | raw
  /-- The mark at the end of a video sequence. -/
  | endOfSequence
  deriving DecidableEq, Repr

/-- The name of a packet kind. -/
def PacketKind.name : PacketKind → String
  | sequenceHeader => "SequenceHeader"
  | raw => "Raw"
  | endOfSequence => "EndOfSequence"

/-- One packet of one track. -/
structure Packet where
  track : TrackId
  /-- The presentation timestamp. -/
  pts : Int
  /-- The decoding timestamp. -/
  dts : Int
  timebase : Timebase
  format : Format
  kind : PacketKind
  payload : Bytes
  /-- The places of the NAL units, once known. -/
  fragments : Option Nal.FragmentIndex
  keyframe : Bool
  deriving DecidableEq, Repr

namespace Packet

/-- The presentation time in microseconds. -/
def ptsUsec (p : Packet) : Option Int :=
  p.timebase.toUsec p.pts

/-- The decoding time in microseconds. -/
def dtsUsec (p : Packet) : Option Int :=
  p.timebase.toUsec p.dts

/-- The number of payload bytes. -/
def size (p : Packet) : Nat :=
  p.payload.length

end Packet

/-- The declaration of a track. -/
structure TrackInfo where
  track : TrackId
  timebase : Timebase
  /-- The framing in which the track is delivered. -/
  format : Format
  /-- The decoder configuration, if it is known beforehand. -/
  extradata : Option Bytes
  deriving DecidableEq, Repr

end LiveMedia
