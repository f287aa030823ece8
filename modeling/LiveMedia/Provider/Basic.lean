import LiveMedia.Provider.Application
import LiveMedia.Store

set_option autoImplicit false

/-!
# Providers

A provider receives media over channels. A channel publishes at most one stream into an
application; a channel that is silent for too long is removed.

Applications, streams and channel sessions are objects: two applications of the same name, one
after the other, are different, and so are two sessions of the same channel number. Each object
has a number of its own in a store. The channel table and the registry say which objects the
provider still holds; objects that it has let go of can still be looked at.

## Main definitions

* `LiveMedia.Settings` — what can be set for a provider.
* `LiveMedia.Session` — a channel from its creation on.
* `LiveMedia.Provider` — the whole state.
-/

namespace LiveMedia

/-- A point in time, in milliseconds. -/
abbrev Time := Nat

/-- Which channel object is meant; a later one of the same channel number has another. -/
abbrev SessionId := Nat

/-! ## Settings -/

/-- What can be set for a provider. -/
structure Settings where
  /-- The silence that a channel is allowed if its creator says nothing; zero allows any. -/
  silenceTimeout : Nat := 3000
  /-- The time between two sweeps. -/
  reapInterval : Nat := 100
  /-- One report is made for this many packets for channels that are not there. -/
  reportInterval : Nat := 100
  deriving DecidableEq, Repr

namespace Settings

/-- Sets the silence that channels are allowed. -/
def withSilenceTimeout (s : Settings) (timeout : Nat) : Settings :=
  { s with silenceTimeout := timeout }

/-- Sets the time between two sweeps, at least one millisecond. -/
def withReapInterval (s : Settings) (interval : Nat) : Settings :=
  { s with reapInterval := max interval 1 }

/-- Sets the number of packets for one report, at least one. -/
def withReportInterval (s : Settings) (interval : Nat) : Settings :=
  { s with reportInterval := max interval 1 }

/-- The time between two sweeps as the reaper takes it, never zero. -/
def sweepInterval (s : Settings) : Nat :=
  max s.reapInterval 1

end Settings

/-! ## Sessions -/

/-- The stream that a channel publishes, and the application it publishes into. -/
structure Binding where
  application : ApplicationId
  stream : StreamId
  deriving DecidableEq, Repr

/-- A channel from its creation on. -/
structure Session where
  channel : ChannelId
  createdAt : Time
  /-- When the channel last gave a sign of life. -/
  lastReceived : Time
  /-- The silence that is allowed; zero allows any. -/
  timeout : Nat
  binding : Option Binding := none
  counters : ChannelCounters := {}
  deriving DecidableEq, Repr

namespace Session

/-- The channel has been silent for longer than allowed. -/
def isExpired (s : Session) (now : Time) : Bool :=
  decide (0 < s.timeout) && decide (s.timeout < now - s.lastReceived)

/-- The silence that is allowed, if there is a limit. -/
def silenceLimit (s : Session) : Option Nat :=
  if s.timeout = 0 then none else some s.timeout

/-- The channel publishes into this very application. -/
def belongsTo (s : Session) (application : ApplicationId) : Bool :=
  s.binding.any fun b => b.application == application

end Session

/-! ## The state -/

/-- What is called for every channel that was silent for too long, before it is removed. -/
structure TimeoutHook where
  /-- The sessions to which the call gives a sign of life. -/
  refreshes : SessionId → ChannelId → List SessionId

/-- The state of a provider. -/
structure Provider where
  name : String
  settings : Settings := {}
  /-- The clock. -/
  now : Time := 0
  applications : Store Application := {}
  streams : Store Stream := {}
  sessions : Store Session := {}
  /-- The applications of the provider, by name. -/
  registry : Table String ApplicationId := ∅
  /-- The channels of the provider. -/
  channels : Table ChannelId SessionId := ∅
  counters : TableCounters := {}
  hook : Option TimeoutHook := none
  /-- When the reaper sweeps next, while it runs. -/
  due : Option Time := none
  /-- The reports that nobody has taken yet. -/
  warnings : List Warning := []
  /-- The calls of the hook that nobody has taken yet. -/
  hookCalls : List (Time × ChannelId) := []

namespace Provider

/-- A step that may be refused and changes the provider. -/
abbrev Step (α : Type) := ExceptT ProviderError (StateM Provider) α

/-- Reports events. -/
def report (p : Provider) (events : List Warning) : Provider :=
  { p with warnings := p.warnings ++ events }

/-- Counts an event of the channel table. -/
def count (p : Provider) (event : TableCounters → TableCounters) : Provider :=
  { p with counters := event p.counters }

/-- A session changed. -/
def modifySession (p : Provider) (id : SessionId) (f : Session → Session) : Provider :=
  { p with sessions := p.sessions.modify id f }

/-- A stream changed. -/
def modifyStream (p : Provider) (id : StreamId) (f : Stream → Stream) : Provider :=
  { p with streams := p.streams.modify id f }

/-- An application changed. -/
def modifyApplication (p : Provider) (id : ApplicationId) (f : Application → Application) :
    Provider :=
  { p with applications := p.applications.modify id f }

/-- An application object. -/
def application (p : Provider) (id : ApplicationId) : Application :=
  (p.applications.get? id).getD .absent

/-- The session of a channel that is there. -/
def find? (p : Provider) (channel : ChannelId) : Option (SessionId × Session) := do
  let id ← p.channels.get? channel
  let session ← p.sessions.get? id
  pure (id, session)

/-- The session of a channel; a channel that is not there is refused. -/
def find (channel : ChannelId) : Step (SessionId × Session) := do
  match (← get).find? channel with
  | some found => pure found
  | none => throw (.unknownChannel channel)

/-- The channel table still holds this very session. -/
def isLive (p : Provider) (id : SessionId) : Bool :=
  (p.sessions.get? id).any fun s => p.channels.get? s.channel == some id

/-- The stream that a session publishes. -/
def publishedStream? (p : Provider) (s : Session) : Option (StreamId × Stream) := do
  let binding ← s.binding
  let stream ← p.streams.get? binding.stream
  pure (binding.stream, stream)

/-- The key of the stream that a session publishes. -/
def publishedKey? (p : Provider) (s : Session) : Option StreamKey :=
  (p.publishedStream? s).map (·.2.key)

/-- The number of channels. -/
def channelCount (p : Provider) : Nat :=
  p.channels.size

/-- The reaper runs. -/
def isRunning (p : Provider) : Bool :=
  p.due.isSome

/-- Gives a session a sign of life. -/
def markReceived (p : Provider) (id : SessionId) : Provider :=
  p.modifySession id fun s => { s with lastReceived := p.now }

/-- The reports and the calls of the hook are taken out. -/
def clearLogs (p : Provider) : Provider :=
  { p with warnings := [], hookCalls := [] }

/-- Lets the consumers in the background of all streams go on until they wait. -/
def settle (p : Provider) : Provider :=
  { p with streams := p.streams.map Stream.settle }

end Provider

end LiveMedia
