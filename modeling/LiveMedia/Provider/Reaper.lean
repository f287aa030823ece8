import LiveMedia.Provider.Channels

set_option autoImplicit false

/-!
# The reaper

The reaper removes channels that have been silent for too long. It sweeps when it is started and
then at regular times. All sweeps that are due happen as the clock moves on.

## Main definitions

* `LiveMedia.Provider.sweepIn` — one sweep that visits the sessions in a given order.
* `LiveMedia.Provider.start`, `LiveMedia.Provider.shutdown` — the life of the reaper.
* `LiveMedia.Provider.sleep`, `LiveMedia.Provider.jump` — the clock moves on.
-/

namespace LiveMedia.Provider

/-! ## Sweeps -/

/-- Calls the hook for a session. -/
def callHook (p : Provider) (id : SessionId) (channel : ChannelId) : Provider :=
  match p.hook with
  | none => p
  | some hook =>
    (hook.refreshes id channel).foldl markReceived
      { p with hookCalls := p.hookCalls ++ [(p.now, channel)] }

/-- The report of a silent session; the silence is measured at the clock. -/
def silenceReport (p : Provider) (session : Session) : Warning :=
  .timedOut session.channel (p.publishedKey? session) (p.now - session.lastReceived)
    session.timeout

/-- The session is still in the table, and still silent for too long. -/
def isOverdue (p : Provider) (id : SessionId) (now : Time) : Bool :=
  p.isLive id && (p.sessions.get? id).any (·.isExpired now)

/-- Removes a session that was silent for too long. -/
def reap (p : Provider) (id : SessionId) (channel : ChannelId) : Provider :=
  ({ p with channels := p.channels.erase channel }.releaseDeleted id).count TableCounters.reap

/-- Visits a session in a sweep at `now`. If it was silent for too long, that is reported, the
hook is called, and if it still is, the session is removed. -/
def visit (now : Time) (s : Provider × List ChannelId) (id : SessionId) :
    Provider × List ChannelId :=
  let (p, reaped) := s
  match p.sessions.get? id with
  | none => (p, reaped)
  | some session =>
    if session.isExpired now then
      let p := (p.report [p.silenceReport session]).callHook id session.channel
      if p.isOverdue id now then
        (p.reap id session.channel, reaped ++ [session.channel])
      else
        (p, reaped)
    else
      (p, reaped)

/-- A sweep at `now` that visits the sessions in a given order; the channels removed. -/
def sweepIn (p : Provider) (order : List SessionId) (now : Time) : Provider × List ChannelId :=
  order.foldl (visit now) (p, [])

/-- A sweep at `now` over all channels; the channels removed. -/
def sweep (p : Provider) (now : Time) : Provider × List ChannelId :=
  p.sweepIn p.channels.values now

/-! ## The clock -/

/-- A sweep at the clock, after which the next one is due at `next`. -/
def tick (p : Provider) (next : Time) : Provider :=
  { (p.sweep p.now).1 with due := some next }

/-- Moves the clock to `time`, when a sweep is due. -/
def tickAt (p : Provider) (time : Time) : Provider :=
  { p with now := time }.tick (time + p.settings.sweepInterval)

/-- The times from `due` on, `interval` apart, that are not after `target`. -/
def tickTimes (due interval target : Time) : List Time :=
  if target < due then
    []
  else
    (List.range ((target - due) / interval + 1)).map fun k => due + interval * k

/-- The times at which sweeps are due, not after `target`. -/
def dueTimes (p : Provider) (target : Time) : List Time :=
  p.due.elim [] fun due => tickTimes due p.settings.sweepInterval target

/-- Moves the clock on; every sweep that becomes due happens at its own time. -/
def sleep (p : Provider) (ms : Nat) : Provider :=
  let target := p.now + ms
  { (p.dueTimes target).foldl tickAt p with now := target }

/-- A sweep that comes later than this loses the rhythm. -/
def lateLimit : Nat := 5

/-- Moves the clock in one step; the reaper wakes at the new time. If a sweep comes too late, the
next one is due one interval after it, otherwise the rhythm is kept. -/
def jump (p : Provider) (ms : Nat) : Provider :=
  let p := { p with now := p.now + ms }
  match p.due with
  | none => p
  | some due =>
    if due + lateLimit < p.now then
      p.tick (p.now + p.settings.sweepInterval)
    else
      (tickTimes due p.settings.sweepInterval p.now).foldl
        (fun q time => q.tick (time + p.settings.sweepInterval)) p

/-! ## Start and end -/

/-- Starts the reaper, unless it runs; the first sweep is at once. -/
def start (p : Provider) : Provider :=
  if p.isRunning then p else p.tick (p.now + p.settings.sweepInterval)

/-- Stops the reaper, then removes every channel and every application. -/
def shutdown (p : Provider) : Provider :=
  let p := { p with due := none }
  let p := p.clear.2
  let applications := p.registry.values
  applications.foldl (fun p id => (p.evict id).2) { p with registry := ∅ }

end LiveMedia.Provider
