import LiveMedia.Feed.Signal
import LiveMedia.Track.Set

set_option autoImplicit false

/-!
# Feeds

A feed is a track set between a producer and its consumers. A change of the tracks and the
notices about it are separate steps, so that consumers may run in between; an operation does
both.

## Main definitions

* `LiveMedia.Feed` — the tracks, whether more is to come, and the signal to consumers.
* `LiveMedia.Feed.Change` — a changed feed and the notices that it owes.
* `LiveMedia.Feed.createTrack`, `LiveMedia.Feed.removeTrack`, `LiveMedia.Feed.push?`,
  `LiveMedia.Feed.close` — the operations of a producer.
-/

namespace LiveMedia

/-- A track set between a producer and its consumers. -/
structure Feed where
  tracks : TrackSet := {}
  /-- No more packets are to come. -/
  closed : Bool := false
  signal : Signal := {}
  /-- The number of the next waiter. -/
  nextWaiter : WaiterId := 0

namespace Feed

/-- A notice to the consumers of a feed. -/
inductive Notice where
  | one
  | all
  deriving DecidableEq, Repr

/-- Gives a notice. -/
def notify (f : Feed) : Notice → Feed
  | .one => { f with signal := f.signal.notifyOne }
  | .all => { f with signal := f.signal.notifyAll }

/-- A changed feed and the notices that it owes. -/
structure Change where
  feed : Feed
  notices : List Notice

/-- The feed once all notices are given. -/
def Change.complete (c : Change) : Feed :=
  c.notices.foldl notify c.feed

/-! ## Changes -/

/-- Declares a track; the set of heads is a new one. -/
def creating (f : Feed) (track : TrackId) (timebase : Timebase) : Change :=
  ⟨{ f with tracks := f.tracks.create track timebase }, [.one]⟩

/-- Removes a track; the others may be ready without it. -/
def removing (f : Feed) (track : TrackId) : Change :=
  ⟨{ f with tracks := f.tracks.remove track }, if f.tracks.contains track then [.one] else []⟩

/-- Queues a packet; consumers hear of it if all tracks are ready then. -/
def pushing? (f : Feed) (p : Packet) : Option Change :=
  (f.tracks.push? p).map fun tracks =>
    ⟨{ f with tracks }, if tracks.allReady then [.one] else []⟩

/-- Ends the feed; all that wait hear of it, and so does the next one. -/
def closing (f : Feed) : Change :=
  ⟨{ f with closed := true }, [.all, .one]⟩

/-! ## Operations -/

/-- Declares a track. One that is declared already gets a new, empty queue. -/
def createTrack (f : Feed) (track : TrackId) (timebase : Timebase) : Feed :=
  (f.creating track timebase).complete

/-- Removes a track with its queue. -/
def removeTrack (f : Feed) (track : TrackId) : Feed :=
  (f.removing track).complete

/-- Queues a packet on its track; `none` if the track is not declared. -/
def push? (f : Feed) (p : Packet) : Option Feed :=
  (f.pushing? p).map Change.complete

/-- Ends the feed. Packets that can be released still are. -/
def close (f : Feed) : Feed :=
  f.closing.complete

/-- Releases the next packet without waiting. -/
def pop? (f : Feed) : Option (Packet × Feed) :=
  f.tracks.pop?.map fun (p, tracks) => (p, { f with tracks })

/-- Releases all packets that can be released. -/
def drain (f : Feed) : List Packet × Feed :=
  let (ps, tracks) := f.tracks.drain
  (ps, { f with tracks })

end Feed

end LiveMedia
