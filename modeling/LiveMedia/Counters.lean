set_option autoImplicit false

/-!
# Counters

Channels, streams and providers count what happens to them. Counters only grow.

## Main definitions

* `LiveMedia.ChannelCounters`, `LiveMedia.StreamCounters`, `LiveMedia.TableCounters` — the
  counters of a channel, of a stream, and of the channel table of a provider.
-/

namespace LiveMedia

/-- The counters of a channel. -/
structure ChannelCounters where
  /-- Payload bytes of the packets received. -/
  bytes : Nat := 0
  /-- Packets that the stream accepted. -/
  packets : Nat := 0
  /-- Packets that were refused. -/
  rejected : Nat := 0
  deriving DecidableEq, Repr

namespace ChannelCounters

/-- Counts an accepted packet of `size` bytes. -/
def packet (c : ChannelCounters) (size : Nat) : ChannelCounters :=
  { c with bytes := c.bytes + size, packets := c.packets + 1 }

/-- Counts a refused packet. -/
def reject (c : ChannelCounters) : ChannelCounters :=
  { c with rejected := c.rejected + 1 }

end ChannelCounters

/-- The counters of a stream. -/
structure StreamCounters where
  /-- Packets handed to the stream. -/
  packetsIn : Nat := 0
  /-- Packets queued after normalization. -/
  packetsOut : Nat := 0
  /-- Keyframes among the queued packets. -/
  keyframes : Nat := 0
  /-- Packets that could not be converted. -/
  conversionErrors : Nat := 0
  /-- Raw AAC units dropped because their track had no configuration. -/
  droppedBeforeConfig : Nat := 0
  deriving DecidableEq, Repr

namespace StreamCounters

/-- Counts a packet handed in. -/
def packetIn (c : StreamCounters) : StreamCounters :=
  { c with packetsIn := c.packetsIn + 1 }

/-- Counts a queued packet. -/
def packetOut (c : StreamCounters) (keyframe : Bool) : StreamCounters :=
  { c with
    packetsOut := c.packetsOut + 1
    keyframes := if keyframe then c.keyframes + 1 else c.keyframes }

/-- Counts a failed conversion. -/
def conversionError (c : StreamCounters) : StreamCounters :=
  { c with conversionErrors := c.conversionErrors + 1 }

/-- Counts a unit dropped before its configuration. -/
def dropBeforeConfig (c : StreamCounters) : StreamCounters :=
  { c with droppedBeforeConfig := c.droppedBeforeConfig + 1 }

end StreamCounters

/-- The counters of a channel table. -/
structure TableCounters where
  created : Nat := 0
  /-- Channels removed, for whatever reason. -/
  deleted : Nat := 0
  /-- Channels removed after a silence. -/
  reaped : Nat := 0
  /-- Channels removed with their application. -/
  evicted : Nat := 0
  /-- Packets that came for a channel that was not there. -/
  unknownDrops : Nat := 0
  deriving DecidableEq, Repr

namespace TableCounters

/-- Counts a new channel. -/
def create (c : TableCounters) : TableCounters :=
  { c with created := c.created + 1 }

/-- Counts a removed channel. -/
def delete (c : TableCounters) : TableCounters :=
  { c with deleted := c.deleted + 1 }

/-- Counts a channel removed after a silence, on top of its removal. -/
def reap (c : TableCounters) : TableCounters :=
  { c with reaped := c.reaped + 1 }

/-- Counts `n` channels removed with their application, on top of their removal. -/
def evict (c : TableCounters) (n : Nat) : TableCounters :=
  { c with evicted := c.evicted + n }

/-- Counts a packet for a channel that is not there. -/
def dropUnknown (c : TableCounters) : TableCounters :=
  { c with unknownDrops := c.unknownDrops + 1 }

end TableCounters

/-- The event number `n`, counted from one, is among those of which every `interval`-th is
reported, starting with the first. -/
def reportsEvery (interval n : Nat) : Bool :=
  (n - 1) % max interval 1 == 0

end LiveMedia
