import LiveMedia.Feed.Consumer

set_option autoImplicit false

/-!
# Audiences

The audience of a feed are consumers in the background. Each takes packet after packet and leaves
when it finds the end of the feed.

## Main definitions

* `LiveMedia.Audience` — the consumers that are there and what they have received.
* `LiveMedia.Audience.settle` — lets all of them go on until they wait.
-/

namespace LiveMedia

/-- A consumer in the background. -/
structure Listener where
  waiter : WaiterId
  phase : Feed.Phase
  deriving DecidableEq, Repr

/-- The consumers in the background of a feed. -/
structure Audience where
  listeners : List Listener := []
  /-- The packets received, in order, by all listeners together. -/
  received : List Packet := []
  /-- A listener has found the end of the feed. -/
  ended : Bool := false
  deriving DecidableEq, Repr

namespace Audience

/-- What a listener leaves when it waits or has gone. -/
structure Pumped where
  feed : Feed
  /-- The listener, unless it found the end. -/
  listener : Option Listener
  received : List Packet

/-- Lets a listener take up to `budget` packets. -/
def pumpUpTo : (budget : Nat) → Feed → Listener → Pumped
  | 0, f, l => ⟨f, some l, []⟩
  | budget + 1, f, l =>
    match f.advance l.waiter l.phase with
    | (f, .packet p) =>
      let rest := pumpUpTo budget f { l with phase := .register }
      { rest with received := p :: rest.received }
    | (f, .ended) => ⟨f, none, []⟩
    | (f, .waiting) => ⟨f, some { l with phase := .wait }, []⟩

/-- Lets a listener go on until it waits or finds the end. It takes at most the packets that are
queued. -/
def pump (f : Feed) (l : Listener) : Pumped :=
  pumpUpTo (f.tracks.queued + 1) f l

/-- Lets a listener that is there go on. -/
def settleOne (s : Feed × Audience) (l : Listener) : Feed × Audience :=
  let r := pump s.1 l
  (r.feed,
    { listeners := s.2.listeners ++ r.listener.toList
      received := s.2.received ++ r.received
      ended := s.2.ended || r.listener.isNone })

/-- Lets all listeners go on until they wait. -/
def settle (a : Audience) (f : Feed) : Feed × Audience :=
  a.listeners.foldl settleOne (f, { a with listeners := [] })

/-- One more listener. -/
def join (a : Audience) (f : Feed) : Feed × Audience :=
  let (waiter, f) := f.newWaiter
  (f, { a with listeners := a.listeners ++ [⟨waiter, .register⟩] })

/-- The packets received so far are taken out. -/
def takeReceived (a : Audience) : List Packet × Audience :=
  (a.received, { a with received := [] })

end Audience

end LiveMedia
