import LiveMedia.Stream

set_option autoImplicit false

/-!
# Applications

An application is a named group of streams. Each of its streams is published by one channel. A
closed application takes no more streams.

## Main definitions

* `LiveMedia.ProviderError` — why a provider refuses an operation.
* `LiveMedia.Application` — the streams of an application, by name.
* `LiveMedia.Application.attach`, `LiveMedia.Application.detach`,
  `LiveMedia.Application.close` — its operations.
-/

namespace LiveMedia

/-- Which application object is meant; a later one of the same name has another number. -/
abbrev ApplicationId := Nat

/-- Which stream object is meant. -/
abbrev StreamId := Nat

/-- Why a provider refuses an operation. -/
inductive ProviderError where
  | stream (error : StreamError)
  | duplicateChannel (channel : ChannelId)
  | unknownChannel (channel : ChannelId)
  /-- The channel publishes no stream yet. -/
  | unbound (channel : ChannelId)
  /-- The name is taken, or the channel publishes a stream already. -/
  | streamInUse (key : StreamKey)
  | unknownApplication (name : String)
  | applicationClosed (name : String)
  deriving DecidableEq, Repr

/-- The wording of a refusal. -/
def ProviderError.message : ProviderError → String
  | stream e => e.message
  | duplicateChannel channel => "channel " ++ toString channel ++ " already exists"
  | unknownChannel channel => "unknown channel: " ++ toString channel
  | unbound channel => "channel " ++ toString channel ++ " is not bound to a stream"
  | streamInUse key => "stream " ++ key.render ++ " is in use"
  | unknownApplication name => "unknown application: " ++ name
  | applicationClosed name => "application closed: " ++ name

/-- A stream in an application, and the channel that publishes it. -/
structure Attached where
  channel : ChannelId
  stream : StreamId
  deriving DecidableEq, Repr

/-- A named group of streams. -/
structure Application where
  name : String
  streams : Table String Attached := ∅
  /-- The application takes no more streams. -/
  closed : Bool := false

namespace Application

/-- An application that is not there counts as a closed one. -/
def absent : Application where
  name := ""
  closed := true

/-- The key of a stream of this application. -/
def streamKey (a : Application) (name : String) : StreamKey :=
  ⟨a.name, name⟩

/-- The stream of a name. -/
def stream? (a : Application) (name : String) : Option StreamId :=
  (a.streams.get? name).map Attached.stream

/-- The channels that publish into the application, in the order of the stream names. -/
def channels (a : Application) : List ChannelId :=
  a.streams.values.map Attached.channel

/-- Attaches a stream under its name. -/
def attach (a : Application) (channel : ChannelId) (stream : StreamId) (key : StreamKey) :
    Except ProviderError Application :=
  if a.closed then
    .error (.applicationClosed a.name)
  else if a.streams.contains key.name then
    .error (.streamInUse key)
  else
    .ok { a with streams := a.streams.insert key.name ⟨channel, stream⟩ }

/-- The name under which a channel publishes. -/
def nameOf? (a : Application) (channel : ChannelId) : Option String :=
  (a.streams.entries.find? fun e => e.2.channel == channel).map Prod.fst

/-- Detaches the stream that a channel publishes. -/
def detach (a : Application) (channel : ChannelId) : Option StreamId × Application :=
  match a.nameOf? channel with
  | none => (none, a)
  | some name => (a.stream? name, { a with streams := a.streams.erase name })

/-- Takes no more streams and gives up those that are attached. -/
def close (a : Application) : List StreamId × Application :=
  (a.streams.values.map Attached.stream, { a with streams := ∅, closed := true })

end Application

end LiveMedia
