import LiveMedia.Provider.Basic
import LiveMedia.Text.Quoted

set_option autoImplicit false

/-!
# The description of a provider

A provider can be described in one line: its name, the number of its channels and applications,
and its settings.

## Main definitions

* `LiveMedia.Text.duration` — a time span with its unit.
* `LiveMedia.Provider.describe` — the description.
-/

namespace LiveMedia

/-- The digits behind the point of `n` thousandths, for `n` below 1000, without zeros at the
end. -/
def Text.thousandths (n : Nat) : String :=
  String.ofList ((Nat.toDigits 10 (n + 1000)).tail.reverse.dropWhile (· == '0')).reverse

/-- A time span in seconds, or in milliseconds if it is shorter than a second. -/
def Text.duration (ms : Nat) : String :=
  if ms = 0 then "0ns"
  else if ms < 1000 then toString ms ++ "ms"
  else if ms % 1000 = 0 then toString (ms / 1000) ++ "s"
  else toString (ms / 1000) ++ "." ++ Text.thousandths (ms % 1000) ++ "s"

/-- The named parts of something, behind its name and in braces. -/
def Text.record (name : String) (parts : List (String × String)) : String :=
  name ++ " \x7b " ++ ", ".intercalate (parts.map fun e => e.1 ++ ": " ++ e.2) ++ " \x7d"

/-- The settings, each behind its name. -/
def Settings.describe (s : Settings) : String :=
  Text.record "ChannelConfig" [
    ("default_silence_timeout_ms", toString s.silenceTimeout),
    ("reap_interval", Text.duration s.reapInterval),
    ("unknown_channel_log_interval", toString s.reportInterval)]

/-- Name, number of channels, settings and number of applications. -/
def Provider.describe (p : Provider) : String :=
  Text.record "Provider" [
    ("name", Text.quote p.name),
    ("table", Text.record "ChannelTable" [
      ("channels", toString p.channels.size),
      ("config", p.settings.describe)]),
    ("applications", toString p.registry.size)]

end LiveMedia
