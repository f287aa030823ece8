import LiveMedia.Provider.Reaper

set_option autoImplicit false

/-!
# Waiting for packets

A consumer waits for the next packet of a stream for a limited time. The clock moves on while it
waits, so that sweeps take place; one of them may close the stream.

## Main definitions

* `LiveMedia.Stream.receive` — waiting on a stream of its own.
* `LiveMedia.Provider.receive` — waiting on a stream of a provider.
-/

namespace LiveMedia

/-- What comes of waiting on a stream. -/
structure Stream.Receive where
  stream : Stream
  packet : Option Packet
  /-- The time that has passed. -/
  waited : Nat
  warnings : List Warning := []

/-- Waits for the next packet of a stream on which nothing else happens: there is one, or the
stream is closed, or the time runs out. -/
def Stream.receive (s : Stream) (timeout : Nat) : Stream.Receive :=
  match s.startReceive with
  | (_, .packet p, s) => { stream := s, packet := some p, waited := 0 }
  | (_, .ended, s) => { stream := s, packet := none, waited := 0 }
  | (waiter, .waiting, s) =>
    let (s, warnings) := s.abandonReceive waiter timeout
    { stream := s, packet := none, waited := timeout, warnings }

namespace Provider

/-- Goes through sweeps at the given times until the consumer of a stream arrives somewhere;
`none` if it still waits after the last one. -/
def receiveAcross (id : StreamId) (waiter : WaiterId) :
    List Time → Provider → Option (Option Packet) × Provider
  | [], p => (none, p)
  | time :: times, p =>
    let p := p.tickAt time
    match p.streams.get? id with
    | none => (none, p)
    | some stream =>
      let (arrival, stream) := stream.resumeReceive waiter
      let p := p.modifyStream id fun _ => stream
      match arrival with
      | .packet packet => (some (some packet), p)
      | .ended => (some none, p)
      | .waiting => receiveAcross id waiter times p

/-- Gives up waiting on a stream at `deadline`. Sweeps that are due at that very time come
after. -/
def abandon (p : Provider) (id : StreamId) (waiter : WaiterId) (timeout : Nat) (deadline : Time) :
    Provider :=
  match p.streams.get? id with
  | none => p
  | some stream =>
    let (stream, events) := stream.abandonReceive waiter timeout
    let p := (p.modifyStream id fun _ => stream).report events
    { (p.dueTimes deadline).foldl tickAt p with now := deadline }

/-- Waits for the next packet of a stream, at most `timeout` milliseconds. -/
def receive (p : Provider) (id : StreamId) (timeout : Nat) : Option Packet × Provider :=
  match p.streams.get? id with
  | none => (none, p)
  | some stream =>
    let (waiter, arrival, stream) := stream.startReceive
    let p := p.modifyStream id fun _ => stream
    match arrival with
    | .packet packet => (some packet, p)
    | .ended => (none, p)
    | .waiting =>
      let deadline := p.now + timeout
      let times := (p.dueTimes deadline).filter (· < deadline)
      match receiveAcross id waiter times p with
      | (some packet, p) => (packet, p)
      | (none, p) => (none, p.abandon id waiter timeout deadline)

end Provider

end LiveMedia
