import LiveMedia.Packet

set_option autoImplicit false

/-!
# Track queues

The normalized packets of one track wait in arrival order.

## Main definitions

* `LiveMedia.TrackQueue` — the waiting packets of a track.
* `LiveMedia.TrackQueue.nextUsec` — the time that the first of them is ordered by.
-/

namespace LiveMedia

/-- The waiting packets of a track, first arrival first. -/
structure TrackQueue where
  timebase : Timebase
  packets : List Packet := []
  deriving DecidableEq, Repr

namespace TrackQueue

/-- The queue with a packet at its end. -/
def push (q : TrackQueue) (p : Packet) : TrackQueue :=
  { q with packets := q.packets ++ [p] }

/-- The first packet and the queue behind it. -/
def pop? (q : TrackQueue) : Option (Packet × TrackQueue) :=
  match q.packets with
  | [] => none
  | p :: rest => some (p, { q with packets := rest })

/-- The queue without its first packet. -/
def tail (q : TrackQueue) : TrackQueue :=
  { q with packets := q.packets.tail }

/-- The first packet. -/
def head? (q : TrackQueue) : Option Packet :=
  q.packets.head?

/-- The number of waiting packets. -/
def size (q : TrackQueue) : Nat :=
  q.packets.length

/-- No packet waits. -/
def isEmpty (q : TrackQueue) : Bool :=
  q.packets.isEmpty

/-- The queue without packets. -/
def clear (q : TrackQueue) : TrackQueue :=
  { q with packets := [] }

/-- The time that a packet of the track is ordered by: its presentation time in microseconds. A
packet whose time cannot be told comes last. -/
def orderTime (q : TrackQueue) (p : Packet) : Int :=
  (q.timebase.toUsec p.pts).getD maxInt64

/-- The time that the first packet is ordered by. -/
def nextUsec (q : TrackQueue) : Option Int :=
  q.head?.map q.orderTime

end TrackQueue

end LiveMedia
