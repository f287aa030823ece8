import LiveMedia.Counters
import LiveMedia.Feed.Audience
import LiveMedia.Track.Normalizer

set_option autoImplicit false

/-!
# Streams

A stream takes the packets of its tracks, normalizes each by the state of its own track, and
queues the results in a feed.

## Main definitions

* `LiveMedia.Stream` — the normalizers and the feed behind one name.
* `LiveMedia.Stream.create`, `LiveMedia.Stream.addTrack`, `LiveMedia.Stream.removeTrack` — the
  tracks of a stream.
* `LiveMedia.Stream.ingest` — one packet.
* `LiveMedia.Stream.startReceive`, `LiveMedia.Stream.resumeReceive`,
  `LiveMedia.Stream.abandonReceive` — waiting for the next packet.
-/

namespace LiveMedia

/-- Why a stream refuses a packet. -/
inductive StreamError where
  | media (error : MediaError)
  /-- The track of the packet is not declared. -/
  | unknownTrack (track : TrackId)
  deriving DecidableEq, Repr

/-- The wording of a refusal. -/
def StreamError.message : StreamError → String
  | media e => e.message
  | unknownTrack track => "unknown track: " ++ toString track

/-- The normalizers and the feed behind one name. -/
structure Stream where
  key : StreamKey
  normalizers : Table TrackId Normalizer := ∅
  feed : Feed := {}
  audience : Audience := {}
  counters : StreamCounters := {}

namespace Stream

/-- One report is made for this many units dropped before their configuration. -/
def dropReportInterval : Nat := 100

/-! ## Tracks -/

/-- Declares a track. One that is declared already starts anew, with an empty queue. -/
def addTrack (s : Stream) (info : TrackInfo) : Stream × List Warning :=
  let (normalizer, warnings) := Normalizer.ofInfo info
  ({ s with
      feed := s.feed.createTrack info.track info.timebase
      normalizers := s.normalizers.insert info.track normalizer },
    warnings)

/-- Declares tracks one after another. -/
def addTracks : Stream → List TrackInfo → Stream × List Warning
  | s, [] => (s, [])
  | s, info :: infos =>
    let (s, first) := s.addTrack info
    let (s, rest) := s.addTracks infos
    (s, first ++ rest)

/-- A new stream with its tracks. -/
def create (key : StreamKey) (infos : List TrackInfo) : Stream × List Warning :=
  addTracks { key } infos

/-- Removes a track with its queue. -/
def removeTrack (s : Stream) (track : TrackId) : Stream :=
  { s with
    normalizers := s.normalizers.erase track
    feed := s.feed.removeTrack track }

/-- The feed has a queue for the track. -/
def hasTrack (s : Stream) (track : TrackId) : Bool :=
  s.feed.tracks.contains track

/-- No more packets are to come. -/
def close (s : Stream) : Stream :=
  { s with feed := s.feed.close }

/-- No more packets are to come. -/
def isClosed (s : Stream) : Bool :=
  s.feed.closed

/-! ## Packets -/

/-- What becomes of a packet handed to a stream. -/
structure Ingest where
  stream : Stream
  result : Except StreamError Unit
  warnings : List Warning := []

/-- Queues a normalized packet and counts it. -/
def enqueue (s : Stream) (p : Packet) : Ingest :=
  match s.feed.push? p with
  | some feed =>
    { stream := { s with feed, counters := s.counters.packetOut p.keyframe }, result := .ok () }
  | none => { stream := s, result := .error (.unknownTrack p.track) }

/-- Counts a unit that came before its configuration. It is dropped and refused nothing. -/
def dropBeforeConfig (s : Stream) (track : TrackId) : Ingest :=
  let counters := s.counters.dropBeforeConfig
  let dropped := counters.droppedBeforeConfig
  { stream := { s with counters }
    result := .ok ()
    warnings :=
      if reportsEvery dropReportInterval dropped then
        [.droppedBeforeConfig s.key track dropped]
      else
        [] }

/-- Takes one packet. Sequence headers are absorbed; raw AAC units without a configuration are
counted and dropped; every other failure to convert is told to the caller. -/
def ingest (s : Stream) (p : Packet) : Ingest :=
  let s := { s with counters := s.counters.packetIn }
  match s.normalizers.get? p.track with
  | none => { stream := s, result := .error (.unknownTrack p.track) }
  | some normalizer =>
    let (result, normalizer) := (normalizer.normalize p).run
    let s := { s with normalizers := s.normalizers.insert p.track normalizer }
    match result with
    | .ok (some q) => s.enqueue q
    | .ok none => { stream := s, result := .ok () }
    | .error .missingConfig => s.dropBeforeConfig p.track
    | .error e =>
      { stream := { s with counters := s.counters.conversionError }, result := .error (.media e) }

/-! ## Consumers -/

/-- Releases the next packet without waiting. -/
def pop? (s : Stream) : Option Packet × Stream :=
  match s.feed.pop? with
  | some (p, feed) => (some p, { s with feed })
  | none => (none, s)

/-- Releases all packets that can be released. -/
def drain (s : Stream) : List Packet × Stream :=
  let (ps, feed) := s.feed.drain
  (ps, { s with feed })

/-- Starts to wait for the next packet under a new number. -/
def startReceive (s : Stream) : WaiterId × Feed.Arrival × Stream :=
  let (waiter, feed) := s.feed.newWaiter
  let (feed, arrival) := feed.advance waiter .register
  (waiter, arrival, { s with feed })

/-- Looks again after the stream may have changed. -/
def resumeReceive (s : Stream) (waiter : WaiterId) : Feed.Arrival × Stream :=
  let (feed, arrival) := s.feed.advance waiter .wait
  (arrival, { s with feed })

/-- Gives up waiting after `waited` milliseconds. Tracks without a packet are reported. -/
def abandonReceive (s : Stream) (waiter : WaiterId) (waited : Nat) : Stream × List Warning :=
  let starved := s.feed.tracks.starved
  ({ s with feed := s.feed.cancel waiter },
    if starved.isEmpty then [] else [.stalled starved waited])

/-- One more consumer in the background. -/
def listen (s : Stream) : Stream :=
  let (feed, audience) := s.audience.join s.feed
  { s with feed, audience }

/-- Lets the consumers in the background go on until they wait. -/
def settle (s : Stream) : Stream :=
  let (feed, audience) := s.audience.settle s.feed
  { s with feed, audience }

end Stream

end LiveMedia
