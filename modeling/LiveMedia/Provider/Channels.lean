import LiveMedia.Provider.Basic

set_option autoImplicit false

/-!
# Channels of a provider

Channels are created, publish a stream, deliver packets and are removed. A refused operation
changes nothing but counters.

## Main definitions

* `LiveMedia.Provider.createApplication`, `LiveMedia.Provider.deleteApplication` — the registry.
* `LiveMedia.Provider.Past` — how long ago a channel was built that is taken in.
* `LiveMedia.Provider.createChannel`, `LiveMedia.Provider.bind`, `LiveMedia.Provider.publish`,
  `LiveMedia.Provider.ingest` — the life of a channel.
* `LiveMedia.Provider.deleteChannel`, `LiveMedia.Provider.evict`, `LiveMedia.Provider.clear` —
  its end.
-/

namespace LiveMedia.Provider

/-! ## Applications -/

/-- The application of a name; a new one if there is none. -/
def createApplication (p : Provider) (name : String) : ApplicationId × Provider :=
  match p.registry.get? name with
  | some id => (id, p)
  | none =>
    let id := p.applications.size
    (id,
      { p with
        applications := p.applications.add { name }
        registry := p.registry.insert name id })

/-- The application of a name. -/
def application? (p : Provider) (name : String) : Option ApplicationId :=
  p.registry.get? name

/-- Attaches a stream to an application without binding a channel to it. -/
def attachStream (application : ApplicationId) (channel : ChannelId) (stream : StreamId)
    (key : StreamKey) : Step Unit := do
  let p ← get
  let a ← ((p.application application).attach channel stream key : Except _ _)
  set (p.modifyApplication application fun _ => a)

/-- Detaches the stream that a channel publishes into an application, and leaves the channel
bound. -/
def detachStream (p : Provider) (application : ApplicationId) (channel : ChannelId) :
    Option StreamId × Provider :=
  let (stream, a) := (p.application application).detach channel
  (stream, p.modifyApplication application fun _ => a)

/-! ## Publishing -/

/-- A stream that is to be published: its application, its name there, and its tracks. -/
structure Publication where
  application : ApplicationId
  stream : String
  tracks : List TrackInfo
  deriving DecidableEq, Repr

/-- Makes the stream of a publication; what is wrong with its tracks is reported. -/
def makeStream (target : Publication) : Step Stream := do
  let p ← get
  let key := (p.application target.application).streamKey target.stream
  let (stream, events) := Stream.create key target.tracks
  set (p.report events)
  pure stream

/-- Attaches a new stream to its application and keeps it. -/
def attachNew (channel : ChannelId) (application : ApplicationId) (stream : Stream) :
    Step Binding := do
  let id := (← get).streams.size
  attachStream application channel id stream.key
  modify fun p => { p with streams := p.streams.add stream }
  pure ⟨application, id⟩

/-- How long ago a channel was built that is taken in now, and how long ago it last gave a sign of
life. To be built is the first one. -/
structure Past where
  age : Nat
  silence : Nat
  silence_le : silence ≤ age
  deriving DecidableEq, Repr

/-- The channel was built a time ago and has given no other sign of life. -/
def Past.ago (age : Nat) : Past :=
  ⟨age, age, Nat.le_refl age⟩

/-- The session of a channel that is taken in. It is dated by when the channel was built, and allowed
the silence of the settings unless its creator says otherwise. -/
def newSession (p : Provider) (channel : ChannelId) (past : Past) (timeout : Option Nat)
    (binding : Option Binding) : Session where
  channel
  createdAt := p.now - past.age
  lastReceived := p.now - past.silence
  timeout := timeout.getD p.settings.silenceTimeout
  binding

/-- Takes in a channel that was built before, with the stream that it publishes from the start, if
any. -/
def enroll (channel : ChannelId) (past : Past) (timeout : Option Nat)
    (stream : Option (ApplicationId × Stream)) : Step SessionId := do
  if (← get).channels.contains channel then
    throw (.duplicateChannel channel)
  let binding ← stream.mapM fun (application, stream) => attachNew channel application stream
  let p ← get
  let id := p.sessions.size
  set ({ p with
    sessions := p.sessions.add (p.newSession channel past timeout binding)
    channels := p.channels.insert channel id }.count TableCounters.create)
  pure id

/-- Builds a channel, which may publish a stream from the start, and takes it in at once. -/
def createChannel (channel : ChannelId) (timeout : Option Nat) (target : Option Publication) :
    Step SessionId := do
  let stream ← target.mapM fun t => do
    let stream ← makeStream t
    pure (t.application, stream)
  enroll channel (.ago 0) timeout stream

/-- Lets a channel that publishes nothing publish a new stream. -/
def bind (channel : ChannelId) (target : Publication) : Step StreamId := do
  let (id, session) ← find channel
  if let some key := (← get).publishedKey? session then
    throw (.streamInUse key)
  let stream ← makeStream target
  let binding ← attachNew channel target.application stream
  modify (·.modifySession id fun s => { s with binding := some binding })
  pure binding.stream

/-- Lets a channel publish a new stream into the application of a name. -/
def publish (channel : ChannelId) (application stream : String) (tracks : List TrackInfo) :
    Step StreamId := do
  match (← get).application? application with
  | none => throw (.unknownApplication application)
  | some id => bind channel ⟨id, stream, tracks⟩

/-! ## Data -/

/-- Counts a packet for a channel that is not there. -/
def dropUnknown (p : Provider) (channel : ChannelId) : Provider :=
  let p := p.count TableCounters.dropUnknown
  let drops := p.counters.unknownDrops
  if reportsEvery p.settings.reportInterval drops then
    p.report [.unknownChannel channel drops]
  else
    p

/-- Counts a refused packet on a session. -/
def reject (p : Provider) (id : SessionId) : Provider :=
  p.modifySession id fun s => { s with counters := s.counters.reject }

/-- Counts an accepted packet of `size` bytes on a session and takes it as a sign of life. -/
def accept (p : Provider) (id : SessionId) (size : Nat) : Provider :=
  (p.markReceived id).modifySession id fun s => { s with counters := s.counters.packet size }

/-- Delivers a packet to the stream of a channel. Only an accepted packet is a sign of life. -/
def ingest (channel : ChannelId) (packet : Packet) : Step Unit := do
  let p ← get
  match p.find? channel with
  | none => do
    set (p.dropUnknown channel)
    throw (.unknownChannel channel)
  | some (id, session) =>
    match p.publishedStream? session with
    | none => do
      set (p.reject id)
      throw (.unbound channel)
    | some (streamId, stream) => do
      let r := stream.ingest packet
      let p := (p.modifyStream streamId fun _ => r.stream).report r.warnings
      match r.result with
      | .ok () => set (p.accept id packet.size)
      | .error e => do
        set (p.reject id)
        throw (.stream e)

/-- Gives a channel a sign of life; false if it is not there. -/
def touch (p : Provider) (channel : ChannelId) : Bool × Provider :=
  match p.channels.get? channel with
  | some id => (true, p.markReceived id)
  | none => (false, p)

/-- Sets the silence that a channel is allowed. -/
def setTimeout (channel : ChannelId) (timeout : Nat) : Step Unit := do
  let (id, _) ← find channel
  modify (·.modifySession id fun s => { s with timeout })

/-! ## Removal -/

/-- Lets a removed session go: its stream is detached from the application and closed. -/
def release (p : Provider) (id : SessionId) : Provider :=
  match p.sessions.get? id with
  | none => p
  | some session =>
    match session.binding with
    | none => p
    | some binding =>
      let p := p.modifySession id fun s => { s with binding := none }
      let p := p.modifyApplication binding.application fun a => (a.detach session.channel).2
      p.modifyStream binding.stream Stream.close

/-- Lets a removed session go and counts it. -/
def releaseDeleted (p : Provider) (id : SessionId) : Provider :=
  (p.release id).count TableCounters.delete

/-- Removes a channel; false if it is not there. -/
def deleteChannel (p : Provider) (channel : ChannelId) : Bool × Provider :=
  match p.channels.get? channel with
  | none => (false, p)
  | some id => (true, { p with channels := p.channels.erase channel }.releaseDeleted id)

/-- The channel publishes into this very application. -/
def publishesInto (p : Provider) (application : ApplicationId) (id : SessionId) : Bool :=
  (p.sessions.get? id).any (·.belongsTo application)

/-- Closes an application; its remaining streams are closed with it. -/
def closeApplication (p : Provider) (application : ApplicationId) : Provider :=
  let (streams, a) := (p.application application).close
  let p := p.modifyApplication application fun _ => a
  streams.foldl (fun p stream => p.modifyStream stream Stream.close) p

/-- Removes every channel that publishes into an application, closes the application, and tells
how many channels there were. -/
def evict (p : Provider) (application : ApplicationId) : Nat × Provider :=
  let evicted := p.channels.filter fun _ id => p.publishesInto application id
  let p := { p with channels := p.channels.filter fun _ id => !p.publishesInto application id }
  let p := evicted.values.foldl releaseDeleted p
  let p := p.closeApplication application
  (evicted.size, p.count (·.evict evicted.size))

/-- Removes an application of the provider with all its channels; `none` if there is none of that
name. -/
def deleteApplication (p : Provider) (name : String) : Option Nat × Provider :=
  match p.registry.get? name with
  | none => (none, p)
  | some id =>
    let (evicted, p) := { p with registry := p.registry.erase name }.evict id
    (some evicted, p)

/-- Removes every channel and tells how many there were. -/
def clear (p : Provider) : Nat × Provider :=
  (p.channels.size, p.channels.values.foldl releaseDeleted { p with channels := ∅ })

end LiveMedia.Provider
