import LiveMedia.Table
import LiveMedia.Track.Queue

set_option autoImplicit false

/-!
# Track sets

The tracks of a stream are merged into one sequence. A packet is released only while every track
has one waiting, so that no later arrival can come before it; the earliest is released first, and
of two at the same time the one on the lower track.

## Main definitions

* `LiveMedia.TrackSet` — the queues of the declared tracks.
* `LiveMedia.TrackSet.pop?` — releases the next packet.
* `LiveMedia.TrackSet.drain` — releases all packets that can be released.
-/

namespace LiveMedia

/-- The queues of the declared tracks of a stream. -/
structure TrackSet where
  tracks : Table TrackId TrackQueue := ∅

namespace TrackSet

/-- Declares a track. One that is declared already gets a new, empty queue. -/
def create (s : TrackSet) (track : TrackId) (timebase : Timebase) : TrackSet :=
  ⟨s.tracks.insert track { timebase }⟩

/-- Removes a track with its queue. -/
def remove (s : TrackSet) (track : TrackId) : TrackSet :=
  ⟨s.tracks.erase track⟩

/-- The queue of a track. -/
def queue? (s : TrackSet) (track : TrackId) : Option TrackQueue :=
  s.tracks.get? track

/-- The track is declared. -/
def contains (s : TrackSet) (track : TrackId) : Bool :=
  s.tracks.contains track

/-- Queues a packet on its track; `none` if the track is not declared. -/
def push? (s : TrackSet) (p : Packet) : Option TrackSet :=
  if s.contains p.track then some ⟨s.tracks.modify p.track (·.push p)⟩ else none

/-- There are tracks, and a packet waits on each. -/
def allReady (s : TrackSet) : Bool :=
  !s.tracks.isEmpty && s.tracks.values.all (!·.isEmpty)

/-- The tracks on which nothing waits, in increasing order. -/
def starved (s : TrackSet) : List TrackId :=
  (s.tracks.filter fun _ q => q.isEmpty).keys

/-- The number of packets that wait on all tracks together. -/
def queued (s : TrackSet) : Nat :=
  (s.tracks.values.flatMap TrackQueue.packets).length

/-- The number of tracks. -/
def trackCount (s : TrackSet) : Nat :=
  s.tracks.size

/-- The set with all queues emptied. -/
def clear (s : TrackSet) : TrackSet :=
  ⟨s.tracks.map fun _ q => q.clear⟩

/-! ## The next packet -/

/-- The packet at the head of a queue, with the time it is ordered by. -/
structure Head where
  time : Int
  track : TrackId
  packet : Packet
  deriving DecidableEq, Repr

/-- The head `a` is released before the head `b` of another track. -/
def Head.before (a b : Head) : Bool :=
  decide (a.time < b.time) || (a.time == b.time && decide (a.track < b.track))

/-- The heads of all queues that have one, in increasing order of the tracks. -/
def heads (s : TrackSet) : List Head :=
  s.tracks.entries.filterMap fun (track, q) =>
    q.head?.map fun p => ⟨q.orderTime p, track, p⟩

/-- The earlier of two heads. -/
def Head.earlier (a b : Head) : Head :=
  if b.before a then b else a

/-- The head that is released first. -/
def earliest? : List Head → Option Head
  | [] => none
  | h :: rest => some (rest.foldl Head.earlier h)

/-- Releases the next packet, if one can be released. -/
def pop? (s : TrackSet) : Option (Packet × TrackSet) :=
  if s.allReady then
    (earliest? s.heads).map fun h => (h.packet, ⟨s.tracks.modify h.track TrackQueue.tail⟩)
  else
    none

/-- Releases packets until none can be released, at most `budget` of them. -/
def drainUpTo : (budget : Nat) → TrackSet → List Packet × TrackSet
  | 0, s => ([], s)
  | budget + 1, s =>
    match s.pop? with
    | none => ([], s)
    | some (p, s) =>
      let (ps, s) := drainUpTo budget s
      (p :: ps, s)

/-- Releases all packets that can be released. -/
def drain (s : TrackSet) : List Packet × TrackSet :=
  drainUpTo s.queued s

end TrackSet

end LiveMedia
