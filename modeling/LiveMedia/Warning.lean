import LiveMedia.Packet

set_option autoImplicit false

/-!
# Warnings

Some events are worth telling an operator about though they fail nothing. A warning is such an
event; its text and its fields are fixed here.

## Main definitions

* `LiveMedia.Warning` — the events.
* `LiveMedia.Warning.message`, `LiveMedia.Warning.fields` — how an event is reported.
-/

namespace LiveMedia

/-- The number of a channel, unique among the channels of a provider. -/
abbrev ChannelId := Nat

/-- The name of a stream: its application and its name there. -/
structure StreamKey where
  app : String
  name : String
  deriving DecidableEq, Repr

/-- The key as one text. -/
def StreamKey.render (key : StreamKey) : String :=
  key.app ++ "/" ++ key.name

/-- An event that is reported and fails nothing. -/
inductive Warning where
  /-- The configuration in a track's declaration could not be used. -/
  | unusableExtradata (track : TrackId) (format : Format) (error : MediaError)
  /-- A raw AAC unit was dropped because its track has no configuration yet. -/
  | droppedBeforeConfig (stream : StreamKey) (track : TrackId) (dropped : Nat)
  /-- A wait ended because some tracks are empty. -/
  | stalled (starved : List TrackId) (waited : Nat)
  /-- Data came for a channel that is not there. -/
  | unknownChannel (channel : ChannelId) (drops : Nat)
  /-- A channel was silent for too long. -/
  | timedOut (channel : ChannelId) (stream : Option StreamKey) (silence timeout : Nat)
  deriving DecidableEq, Repr

/-- The value of a reported field. -/
inductive ReportValue where
  | number (n : Nat)
  | text (s : String)
  deriving DecidableEq, Repr

namespace Warning

/-- A list of numbers as text, in brackets and with commas between. -/
def numberList (ns : List Nat) : String :=
  "[" ++ ", ".intercalate (ns.map toString) ++ "]"

/-- The text of an event. -/
def message : Warning → String
  | unusableExtradata .. => "Ignoring unusable track extradata"
  | droppedBeforeConfig .. => "Dropping AAC frame received before its AudioSpecificConfig"
  | stalled .. => "Track set stalled waiting on empty tracks"
  | unknownChannel .. => "Dropping data for unknown channel"
  | timedOut _ (some _) _ _ => "Channel timed out"
  | timedOut _ none _ _ => "Unbound channel timed out"

/-- The fields of an event, by name. -/
def fields : Warning → List (String × ReportValue)
  | unusableExtradata track format error =>
    [("track_id", .number track), ("format", .text format.name), ("error", .text error.message)]
  | droppedBeforeConfig stream track dropped =>
    [("stream", .text stream.render), ("track_id", .number track), ("dropped", .number dropped)]
  | stalled starved waited =>
    [("starved_tracks", .text (numberList starved)), ("waited_ms", .number waited)]
  | unknownChannel channel drops =>
    [("channel_id", .number channel), ("drops", .number drops)]
  | timedOut channel stream silence timeout =>
    [("channel_id", .number channel)] ++
      (stream.map fun key => ("stream", .text key.render)).toList ++
      [("silence_ms", .number silence), ("timeout_ms", .number timeout)]

end Warning

end LiveMedia
