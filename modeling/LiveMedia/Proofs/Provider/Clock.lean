import LiveMedia.Proofs.Provider.Sweeps
import LiveMedia.Provider.Receive

set_option autoImplicit false

/-!
# The clock of the reaper

While the clock moves on by sleeping, the reaper never falls behind: its next sweep lies ahead, by
at most one interval. A sleep is the sweeps that become due in it, one after another, and may be
cut into two at any time.

## Main definitions

* `LiveMedia.Provider.Act`, `LiveMedia.Provider.act` — what is done to a provider and to the objects
  that it has handed out.
* `LiveMedia.Provider.Turn` — what a quiet act may do to the clock and to the sessions.
* `LiveMedia.Provider.Timely` — the reaper is not behind.
* `LiveMedia.Provider.sweeps` — the states in which the reaper sweeps.
* `LiveMedia.Provider.Pauses` — nothing happens but that time passes and streams change.

## Main results

* `LiveMedia.Provider.turn` — every quiet act is such a turn.
* `LiveMedia.Provider.wake_induction` — induction on the sweeps that are due.
* `LiveMedia.Provider.Timely.perform` — the reaper is never behind.
* `LiveMedia.Provider.Timely.sleep_add` — a sleep may be cut in two.
* `LiveMedia.Provider.exists_mem_sweepsOf` — whatever the reaper removes is removed in one of its
  sweeps.
* `LiveMedia.Provider.Timely.pauses_receive` — to wait for a packet is to pause.
-/

namespace LiveMedia.Provider

/-! ## Acts -/

/-- What is done to a provider, or to an object that it has handed out. -/
inductive Act where
  | op (o : Op)
  /-- A session is given a sign of life by whoever holds it. -/
  | mark (sid : SessionId)
  /-- A session is given a timeout by whoever holds it. -/
  | retime (sid : SessionId) (timeout : Nat)
  /-- Streams change, by their consumers or by whoever holds them. -/
  | streams (f : Store Stream → Store Stream)
  /-- Applications change, by whoever holds them. -/
  | applications (f : Store Application → Store Application)
  /-- Something is logged, or taken out of the logs. -/
  | logs (warnings : List Warning → List Warning)
    (hookCalls : List (Time × ChannelId) → List (Time × ChannelId))

/-- The provider after an act. -/
def act (p : Provider) : Act → Provider
  | .op o => p.apply o
  | .mark sid => p.markReceived sid
  | .retime sid timeout => p.modifySession sid fun s => { s with timeout }
  | .streams f => { p with streams := f p.streams }
  | .applications f => { p with applications := f p.applications }
  | .logs f g => { p with warnings := f p.warnings, hookCalls := g p.hookCalls }

/-- The provider after one act after another. -/
def perform (p : Provider) (acts : List Act) : Provider :=
  acts.foldl act p

/-- The clock does not jump, and no hook is set that gives signs of life. -/
def Act.IsQuiet : Act → Prop
  | .op (.jump _) => False
  | .op (.setHook hook) => ∀ h ∈ hook, ∀ id c, h.refreshes id c = []
  | _ => True

variable {p q r : Provider} {sid : SessionId} {a : Act} {interval target target' d : Nat}
  {K : SessionId → Prop}

/-- With the act the session is taken in, or it gives a sign of life: it accepts a packet, or is
touched or marked. -/
def Refreshes (p : Provider) (sid : SessionId) : Act → Prop
  | .op (.enroll c past timeout stream) =>
    (outcome (enroll c past timeout (stream.map fun (A, key, infos) =>
      (A, (Stream.create key infos).1))) p).1 = .ok sid
  | .op (.createChannel c timeout target) =>
    (outcome (createChannel c timeout target) p).1 = .ok sid
  | .op (.ingest c packet) =>
    p.channels.get? c = some sid ∧ (outcome (ingest c packet) p).1 = .ok ()
  | .op (.touch c) => p.channels.get? c = some sid
  | .mark id => id = sid
  | _ => False

/-- The act gives the session another timeout. -/
def Retimes (p : Provider) (sid : SessionId) : Act → Prop
  | .op (.setTimeout c timeout) =>
    p.channels.get? c = some sid ∧ ∃ l ∈ p.life? sid, l.timeout ≠ timeout
  | .retime id timeout => id = sid ∧ ∃ l ∈ p.life? sid, l.timeout ≠ timeout
  | _ => False

/-- The act is no sign of life of the session, and the session keeps its timeout. -/
def Leaves (p : Provider) (sid : SessionId) (a : Act) : Prop :=
  ¬p.Refreshes sid a ∧ ¬p.Retimes sid a

/-! ## What an act may do -/

/-- What a quiet act may make of a provider. -/
inductive Turn (p : Provider) : Act → Provider → Prop
  /-- The clock stands still, and so does the reaper. -/
  | still {a : Act} {q : Provider}
      (h : Spares (fun sid => p.life? sid ≠ none ∧ p.Leaves sid a) p q) : Turn p a q
  /-- The reaper starts, with a sweep. -/
  | start : Turn p (.op .start) (p.tickAt p.now)
  | sleep (ms : Nat) : Turn p (.op (.sleep ms)) (p.sleep ms)
  | shutdown {q : Provider} (h : Spares (fun _ => True) { p with due := none } q) :
      Turn p (.op .shutdown) q
  | setHook (hook : Option TimeoutHook) (h : HookQuiet { p with hook }) :
      Turn p (.op (.setHook hook)) { p with hook }

lemma spares_shutdown (p : Provider) : Spares K { p with due := none } p.shutdown := by
  let stopped : Provider := { p with due := none }
  have hcleared : Spares K stopped stopped.clear.2 := spares_clear stopped
  have hforgotten : Alike stopped.clear.2 { stopped.clear.2 with registry := ∅ } :=
    ⟨rfl, rfl, rfl, rfl, rfl, rfl⟩
  exact (hcleared.trans (hforgotten.spares K)).trans (.foldl spares_evict _ _)

lemma alike_createApplication (p : Provider) (name : String) :
    Alike p (p.createApplication name).2 := by
  unfold createApplication
  split
  · exact .refl p
  · exact ⟨rfl, rfl, rfl, rfl, rfl, rfl⟩

/-- **Every quiet act is a turn.** -/
lemma turn (hquiet : p.HookQuiet) (ha : a.IsQuiet) : Turn p a (p.act a) := by
  cases a with
  | mark id => exact .still (spares_markReceived p fun hK => hK.2.1 rfl)
  | retime id timeout =>
    refine .still (spares_modifySession p id fun hK s hs => ?_)
    have hlife : p.life? id = some s.life := life?_eq_some_iff.2 ⟨s, hs, rfl⟩
    have htimeout : s.timeout = timeout := by
      by_contra hne
      exact hK.2.2 ⟨rfl, s.life, hlife, hne⟩
    rw [← htimeout]
  | streams f =>
    have hsame : Alike p (p.act (.streams f)) := ⟨rfl, rfl, rfl, rfl, rfl, rfl⟩
    exact .still (hsame.spares _)
  | applications f =>
    have hsame : Alike p (p.act (.applications f)) := ⟨rfl, rfl, rfl, rfl, rfl, rfl⟩
    exact .still (hsame.spares _)
  | logs f g =>
    have hsame : Alike p (p.act (.logs f g)) := ⟨rfl, rfl, rfl, rfl, rfl, rfl⟩
    exact .still (hsame.spares _)
  | op o =>
    cases o with
    | createApplication name => exact .still ((alike_createApplication p name).spares _)
    | newApplication name =>
      have hsame : Alike p (p.apply (.newApplication name)) := ⟨rfl, rfl, rfl, rfl, rfl, rfl⟩
      exact .still (hsame.spares _)
    | enroll c past timeout stream =>
      exact .still ((enrolls_enroll p c past timeout _).spares fun _ hK => hK.1)
    | createChannel c timeout target =>
      exact .still ((enrolls_createChannel p c timeout target).spares fun _ hK => hK.1)
    | bind c target => exact .still (spares_bind p c target)
    | publish c application stream tracks =>
      exact .still (spares_publish p c application stream tracks)
    | ingest c packet => exact .still ((receives_ingest p c packet).spares fun _ hK => hK.2.1)
    | touch c => exact .still (spares_touch p c fun _ hK => hK.2.1)
    | setTimeout c timeout =>
      refine .still (spares_setTimeout p c timeout fun sid hK hc l hl => ?_)
      by_contra hne
      exact hK.2.2 ⟨hc, l, hl, hne⟩
    | deleteChannel c => exact .still (spares_deleteChannel p c)
    | evict A => exact .still (spares_evict p A)
    | deleteApplication name => exact .still (spares_deleteApplication p name)
    | sweep order now => exact .still (spares_sweepIn hquiet order now)
    | clear => exact .still (spares_clear p)
    | shutdown => exact .shutdown (spares_shutdown p)
    | setHook hook => exact .setHook hook ha
    | start =>
      show Turn p (.op .start) p.start
      unfold start
      split
      · exact .still (.refl _ p)
      · exact .start
    | sleep ms => exact .sleep ms
    | jump ms => exact absurd ha id

/-! ## Sweeps that are due -/

lemma Settings.sweepInterval_pos (s : Settings) : 0 < s.sweepInterval :=
  Nat.lt_of_lt_of_le Nat.one_pos (Nat.le_max_right _ _)

lemma tickTimes_of_lt (h : target < d) : tickTimes d interval target = [] :=
  if_pos h

/-- The first sweep is at the time that is due, the others follow after it. -/
lemma tickTimes_of_le (hinterval : 0 < interval) (h : d ≤ target) :
    tickTimes d interval target = d :: tickTimes (d + interval) interval target := by
  rw [tickTimes, if_neg (Nat.not_lt.2 h), List.range_succ_eq_map, List.map_cons, List.map_map,
    Nat.mul_zero, Nat.add_zero, List.cons_inj_right]
  by_cases hlast : target < d + interval
  · rw [tickTimes_of_lt hlast, Nat.div_eq_of_lt (by omega)]
    rfl
  · have hsub : (target - d) / interval = (target - (d + interval)) / interval + 1 := by
      rw [Nat.div_eq_sub_div hinterval (by omega), Nat.sub_sub]
    rw [tickTimes, if_neg hlast, hsub]
    apply List.map_congr_left
    intro k _
    show d + interval * (k + 1) = d + interval + interval * k
    rw [Nat.mul_succ]
    omega

/-- The provider when all sweeps that are due by `target` have taken place. -/
def wake (p : Provider) (target : Time) : Provider :=
  (p.dueTimes target).foldl tickAt p

lemma sleep_eq (p : Provider) (ms : Nat) :
    p.sleep ms = { p.wake (p.now + ms) with now := p.now + ms } :=
  rfl

/-- A sweep moves the clock, and leaves the life of every session as it is. -/
lemma spares_tickAt (h : p.HookQuiet) (x : Time) :
    Spares K { p with now := x, due := some (x + p.settings.sweepInterval) } (p.tickAt x) := by
  let woken : Provider := { p with now := x }
  have hwoken : woken.HookQuiet := h
  have hsweep : Spares K woken (woken.sweep x).1 := spares_sweepIn hwoken _ x
  exact ⟨hsweep.now, rfl, hsweep.settings, hsweep.hook, hsweep.life, hsweep.live⟩

/-- The reaper is not behind: its next sweep lies ahead, by at most one interval. -/
structure Timely (interval : Nat) (p : Provider) : Prop where
  quiet : p.HookQuiet
  rhythm : p.settings.sweepInterval = interval
  ahead : ∀ d ∈ p.due, p.now < d
  near : ∀ d ∈ p.due, d ≤ p.now + interval

lemma timely_new (name : String) (settings : Settings) :
    Timely settings.sweepInterval { name, settings } where
  quiet := nofun
  rhythm := rfl
  ahead := nofun
  near := nofun

lemma dueTimes_of_lt (h : ∀ d ∈ p.due, target < d) : p.dueTimes target = [] := by
  unfold dueTimes
  cases hdue : p.due with
  | none => rfl
  | some d => exact tickTimes_of_lt (h d hdue)

namespace Timely

lemma interval_pos (h : Timely interval p) : 0 < interval := by
  rw [← h.rhythm]
  exact Settings.sweepInterval_pos _

lemma due_tickAt (h : Timely interval p) (x : Time) : (p.tickAt x).due = some (x + interval) := by
  rw [← h.rhythm]
  rfl

lemma now_tickAt (h : Timely interval p) (x : Time) : (p.tickAt x).now = x :=
  (spares_tickAt (K := fun _ => True) h.quiet x).now

/-- A sweep at any time leaves the reaper in time, as the next one is an interval later. -/
lemma tickAt (h : Timely interval p) (x : Time) : Timely interval (p.tickAt x) := by
  have hsweep := spares_tickAt (K := fun _ => True) h.quiet x
  have hquiet : (p.tickAt x).HookQuiet := h.quiet.of_hook_eq hsweep.hook
  refine ⟨hquiet, (congrArg Settings.sweepInterval hsweep.settings).trans h.rhythm, ?_, ?_⟩
  · rintro d hd
    rw [h.due_tickAt] at hd
    cases hd
    rw [h.now_tickAt]
    exact Nat.lt_add_of_pos_right h.interval_pos
  · rintro d hd
    rw [h.due_tickAt] at hd
    cases hd
    rw [h.now_tickAt]

lemma dueTimes_of_le (h : Timely interval p) (hdue : p.due = some d) (hd : d ≤ target) :
    p.dueTimes target = d :: (p.tickAt d).dueTimes target := by
  rw [dueTimes, dueTimes, hdue, h.due_tickAt, Option.elim_some, Option.elim_some, h.rhythm,
    (h.tickAt d).rhythm, tickTimes_of_le h.interval_pos hd]

end Timely

/-- **Induction on the sweeps that are due.** Each of them takes place at its own time.

**Proof sketch.** Induction on the time from the next sweep to the target, which every sweep makes
shorter as the interval is positive. -/
lemma wake_induction {motive : Provider → Prop} (hp : Timely interval p) (h : motive p)
    (hstep : ∀ q d, Timely interval q → q.due = some d → d ≤ target → motive q →
      motive (q.tickAt d)) :
    motive (p.wake target) ∧ Timely interval (p.wake target) ∧
      ∀ d ∈ (p.wake target).due, target < d := by
  generalize hn : target + 1 - p.due.getD (target + 1) = n
  induction n using Nat.strong_induction_on generalizing p with
  | _ n ih =>
    by_cases hahead : ∀ d ∈ p.due, target < d
    · rw [wake, dueTimes_of_lt hahead]
      exact ⟨h, hp, hahead⟩
    · push Not at hahead
      obtain ⟨d, hdue, hd⟩ := hahead
      have hinterval := hp.interval_pos
      have hwake : p.wake target = (p.tickAt d).wake target := by
        rw [wake, hp.dueTimes_of_le hdue hd]
        rfl
      rw [hwake]
      refine ih _ ?_ (hp.tickAt d) (hstep p d hp hdue hd h) rfl
      rw [← hn, hp.due_tickAt, hdue]
      simp only [Option.getD_some]
      omega

/-- The sweeps do not depend on the clock before them. -/
lemma wake_now (p : Provider) (target x y : Time) :
    { ({ p with now := x } : Provider).wake target with now := y } =
      { p.wake target with now := y } := by
  show ({ List.foldl Provider.tickAt { p with now := x } (p.dueTimes target) with now := y } :
    Provider) = { List.foldl Provider.tickAt p (p.dueTimes target) with now := y }
  cases p.dueTimes target <;> rfl

namespace Timely

/-- The sweeps up to a time, and then those up to a later time. -/
lemma wake_wake (h : Timely interval p) (hle : target ≤ target') :
    (p.wake target).wake target' = p.wake target' := by
  refine (wake_induction (motive := fun q => q.wake target' = p.wake target') h rfl ?_).1
  intro q d hq hdue hd hwake
  rw [← hwake, wake, wake, hq.dueTimes_of_le hdue (hd.trans hle), List.foldl_cons]

/-- **A sleep may be cut in two.** So what holds at the end of every sleep holds at every time in
it. -/
theorem sleep_add (h : Timely interval p) (m n : Nat) :
    p.sleep (m + n) = (p.sleep m).sleep n := by
  calc p.sleep (m + n)
      = { p.wake (p.now + m + n) with now := p.now + m + n } := by
        rw [sleep_eq, Nat.add_assoc]
    _ = { (p.wake (p.now + m)).wake (p.now + m + n) with now := p.now + m + n } := by
        rw [h.wake_wake (Nat.le_add_right _ n)]
    _ = (p.sleep m).sleep n := (wake_now (p.wake (p.now + m)) _ _ _).symm

lemma sleep (h : Timely interval p) (ms : Nat) : Timely interval (p.sleep ms) := by
  have hstep (q : Provider) (d : Nat) (hq : Timely interval q) (_ : q.due = some d)
      (hd : d ≤ p.now + ms) (_ : q.now ≤ p.now + ms) : (q.tickAt d).now ≤ p.now + ms := by
    rw [hq.now_tickAt]
    exact hd
  obtain ⟨hnow, hwake, hahead⟩ := wake_induction (motive := fun q => q.now ≤ p.now + ms) h
    (Nat.le_add_right p.now ms) hstep
  refine ⟨hwake.quiet, hwake.rhythm, hahead, fun d hd => ?_⟩
  exact (hwake.near d hd).trans (Nat.add_le_add_right hnow interval)

lemma of_spares (h : Timely interval p) (hs : Spares K p q) : Timely interval q where
  quiet := h.quiet.of_hook_eq hs.hook
  rhythm := (congrArg Settings.sweepInterval hs.settings).trans h.rhythm
  ahead d hd := by
    rw [hs.due] at hd
    rw [hs.now]
    exact h.ahead d hd
  near d hd := by
    rw [hs.due] at hd
    rw [hs.now]
    exact h.near d hd

end Timely

lemma Turn.timely (h : Turn p a q) (hp : Timely interval p) : Timely interval q := by
  cases h with
  | still h => exact hp.of_spares h
  | start => exact hp.tickAt p.now
  | sleep ms => exact hp.sleep ms
  | shutdown h =>
    have hstopped : Timely interval { p with due := none } := ⟨hp.quiet, hp.rhythm, nofun, nofun⟩
    exact hstopped.of_spares h
  | setHook hook h => exact ⟨h, hp.rhythm, hp.ahead, hp.near⟩

/-- **The reaper is never behind.** -/
lemma Timely.perform (h : Timely interval p) {acts : List Act} (hquiet : ∀ a ∈ acts, a.IsQuiet) :
    Timely interval (p.perform acts) := by
  induction acts generalizing p with
  | nil => exact h
  | cons a acts ih =>
    have hturn : Turn p a (p.act a) := turn h.quiet (hquiet a List.mem_cons_self)
    exact ih (hturn.timely h) fun b hb => hquiet b (List.mem_cons_of_mem a hb)

/-! ## The sweeps of the reaper -/

/-- The states in which a reaper sweeps that sweeps at the given times. -/
def sweepStates : Provider → List Time → List Provider
  | _, [] => []
  | p, x :: xs => { p with now := x } :: (p.tickAt x).sweepStates xs

/-- The states in which the reaper sweeps during a quiet act. -/
def sweepsOf (p : Provider) : Act → List Provider
  | .op .start => if p.isRunning then [] else [p]
  | .op (.sleep ms) => p.sweepStates (p.dueTimes (p.now + ms))
  | _ => []

/-- The states in which the reaper sweeps during quiet acts. -/
def sweeps : Provider → List Act → List Provider
  | _, [] => []
  | p, a :: acts => p.sweepsOf a ++ (p.act a).sweeps acts

/-- The session is in the table before a sweep at the clock, and no longer after it. -/
def SweepRemoves (p : Provider) (sid : SessionId) : Prop :=
  p.isLive sid = true ∧ (p.sweep p.now).1.isLive sid = false

lemma exists_mem_sweepStates {times : List Time} (hlive : p.isLive sid = true)
    (hgone : (times.foldl tickAt p).isLive sid = false) :
    ∃ x ∈ p.sweepStates times, x.SweepRemoves sid := by
  induction times generalizing p with
  | nil =>
    rw [List.foldl_nil, hlive] at hgone
    cases hgone
  | cons x times ih =>
    cases hstays : (p.tickAt x).isLive sid with
    | false => exact ⟨{ p with now := x }, List.mem_cons_self, hlive, hstays⟩
    | true =>
      obtain ⟨y, hy, hremoves⟩ := ih hstays hgone
      exact ⟨y, List.mem_cons_of_mem _ hy, hremoves⟩

/-- **Whatever the reaper removes is removed in one of its sweeps.** -/
theorem exists_mem_sweepsOf (ha : a = .op .start ∨ ∃ ms, a = .op (.sleep ms))
    (hlive : p.isLive sid = true) (hgone : (p.act a).isLive sid = false) :
    ∃ x ∈ p.sweepsOf a, x.SweepRemoves sid := by
  rcases ha with rfl | ⟨ms, rfl⟩
  · have hstart : p.act (.op .start) = p.start := rfl
    rw [hstart, start] at hgone
    unfold sweepsOf
    split at hgone
    · rw [hlive] at hgone
      cases hgone
    · next hidle =>
      rw [if_neg hidle]
      exact ⟨p, List.mem_singleton_self p, hlive, hgone⟩
  · exact exists_mem_sweepStates hlive hgone

/-! ## Waiting for packets -/

/-- The act lets time pass, or changes streams or what is logged. -/
inductive Act.IsPause : Act → Prop
  | sleep (ms : Nat) : IsPause (.op (.sleep ms))
  | streams (f : Store Stream → Store Stream) : IsPause (.streams f)
  | logs (f : List Warning → List Warning)
      (g : List (Time × ChannelId) → List (Time × ChannelId)) : IsPause (.logs f g)

/-- Nothing but pauses leads from the one to the other. -/
def Pauses (p q : Provider) : Prop :=
  ∃ acts : List Act, (∀ a ∈ acts, a.IsPause) ∧ q = p.perform acts

namespace Pauses

lemma refl (p : Provider) : Pauses p p :=
  ⟨[], fun _ ha => absurd ha List.not_mem_nil, rfl⟩

lemma trans (h : Pauses p q) (h' : Pauses q r) : Pauses p r := by
  obtain ⟨acts, hacts, rfl⟩ := h
  obtain ⟨acts', hacts', rfl⟩ := h'
  refine ⟨acts ++ acts', fun a ha => ?_, List.foldl_append.symm⟩
  rcases List.mem_append.1 ha with ha | ha
  · exact hacts a ha
  · exact hacts' a ha

lemma act (p : Provider) (ha : a.IsPause) : Pauses p (p.act a) :=
  ⟨[a], fun _ hb => List.mem_singleton.1 hb ▸ ha, rfl⟩

end Pauses

/-- A sweep at the time that is due takes place in a sleep up to that time. -/
lemma Timely.sleep_eq_tickAt (h : Timely interval p) (hdue : p.due = some d) :
    p.sleep (d - p.now) = p.tickAt d := by
  have htarget : p.now + (d - p.now) = d := Nat.add_sub_cancel' (h.ahead d hdue).le
  have hahead : ∀ d' ∈ (p.tickAt d).due, d < d' := by
    intro d' hd'
    rw [← h.now_tickAt d]
    exact (h.tickAt d).ahead d' hd'
  have hwake : p.wake d = p.tickAt d := by
    rw [wake, h.dueTimes_of_le hdue le_rfl, dueTimes_of_lt hahead]
    rfl
  rw [sleep_eq, htarget, hwake]
  have hnow := h.now_tickAt d
  generalize p.tickAt d = q at hnow
  rw [← hnow]

/-- The first sweep before a deadline is the one that is due; the others follow after it. -/
lemma Timely.due_of_dueTimes_eq_cons (h : Timely interval p) {deadline time : Nat}
    {times : List Time} (htimes : (p.dueTimes deadline).filter (· < deadline) = time :: times) :
    p.due = some time ∧ time < deadline ∧
      ((p.tickAt time).dueTimes deadline).filter (· < deadline) = times := by
  by_cases hahead : ∀ d ∈ p.due, deadline < d
  · rw [dueTimes_of_lt hahead] at htimes
    cases htimes
  · push Not at hahead
    obtain ⟨d, hdue, hd⟩ := hahead
    rw [h.dueTimes_of_le hdue hd] at htimes
    by_cases hlt : d < deadline
    · rw [List.filter_cons, if_pos (decide_eq_true hlt)] at htimes
      cases htimes
      exact ⟨hdue, hlt, rfl⟩
    · -- a sweep at the deadline itself is the last one that is due
      have hlast : ∀ d' ∈ (p.tickAt d).due, deadline < d' := by
        intro d' hd'
        have hahead := (h.tickAt d).ahead d' hd'
        rw [h.now_tickAt] at hahead
        exact Nat.lt_of_le_of_lt (Nat.le_of_not_lt hlt) hahead
      rw [dueTimes_of_lt hlast, List.filter_cons, if_neg (by simpa using hlt)] at htimes
      cases htimes

lemma Timely.pauses_receiveAcross (h : Timely interval p) (id : StreamId) (waiter : WaiterId)
    {deadline : Nat} {times : List Time} (hnow : p.now ≤ deadline)
    (htimes : (p.dueTimes deadline).filter (· < deadline) = times) :
    Pauses p (receiveAcross id waiter times p).2 ∧
      (receiveAcross id waiter times p).2.now ≤ deadline := by
  induction times generalizing p with
  | nil => exact ⟨.refl p, hnow⟩
  | cons time times ih =>
    obtain ⟨hdue, htime, hrest⟩ := h.due_of_dueTimes_eq_cons htimes
    have hsweep : Pauses p (p.tickAt time) := by
      rw [← h.sleep_eq_tickAt hdue]
      exact .act p (.sleep _)
    have hclock : (p.tickAt time).now ≤ deadline := by
      rw [h.now_tickAt]
      exact htime.le
    unfold receiveAcross
    dsimp only
    cases hstream : (p.tickAt time).streams.get? id with
    | none => exact ⟨hsweep, hclock⟩
    | some stream =>
      dsimp only
      let resumed := (p.tickAt time).modifyStream id fun _ => (stream.resumeReceive waiter).2
      have hresumed : Pauses p resumed :=
        hsweep.trans (.act _ (.streams fun streams => streams.modify id fun _ => _))
      cases (stream.resumeReceive waiter).1 with
      | packet packet => exact ⟨hresumed, hclock⟩
      | ended => exact ⟨hresumed, hclock⟩
      | waiting =>
        have htimely : Timely interval resumed :=
          (h.tickAt time).of_spares ((alike_modifyStream _ id _).spares fun _ => True)
        obtain ⟨hpauses, hend⟩ := ih htimely hclock hrest
        exact ⟨hresumed.trans hpauses, hend⟩

lemma pauses_abandon (p : Provider) (id : StreamId) (waiter : WaiterId) (timeout : Nat)
    {deadline : Nat} (hnow : p.now ≤ deadline) :
    Pauses p (p.abandon id waiter timeout deadline) := by
  unfold abandon
  split
  · exact .refl p
  · next stream _ =>
    dsimp only
    let left := (p.modifyStream id fun _ => (stream.abandonReceive waiter timeout).1).report
      (stream.abandonReceive waiter timeout).2
    have hleft : Pauses p left :=
      (Pauses.act p (.streams fun streams => streams.modify id fun _ => _)).trans
        (.act _ (.logs (· ++ _) fun calls => calls))
    have hsleep : left.sleep (deadline - left.now) =
        { (left.dueTimes deadline).foldl tickAt left with now := deadline } := by
      have htarget : left.now + (deadline - left.now) = deadline := Nat.add_sub_cancel' hnow
      rw [sleep_eq, htarget]
      rfl
    rw [← hsleep]
    exact hleft.trans (.act left (.sleep _))

/-- **Waiting for a packet is a run of pauses.** The sweeps take place as in a sleep. -/
theorem Timely.pauses_receive (h : Timely interval p) (id : StreamId) (timeout : Nat) :
    Pauses p (p.receive id timeout).2 := by
  unfold receive
  split
  · exact .refl p
  · next stream _ =>
    dsimp only
    have hstarted : Pauses p (p.modifyStream id fun _ => stream.startReceive.2.2) :=
      .act p (.streams fun streams => streams.modify id _)
    have htimely : Timely interval (p.modifyStream id fun _ => stream.startReceive.2.2) :=
      h.of_spares ((alike_modifyStream p id _).spares fun _ => True)
    generalize p.modifyStream id (fun _ => stream.startReceive.2.2) = started at hstarted htimely
    cases stream.startReceive.2.1 with
    | packet packet => exact hstarted
    | ended => exact hstarted
    | waiting =>
      dsimp only
      obtain ⟨hacross, hend⟩ := htimely.pauses_receiveAcross id stream.startReceive.1
        (Nat.le_add_right started.now timeout) rfl
      generalize receiveAcross id stream.startReceive.1 _ started = r at hacross hend
      obtain ⟨arrival, q⟩ := r
      have hstopped : Pauses p q := hstarted.trans hacross
      cases arrival with
      | some packet => exact hstopped
      | none => exact hstopped.trans (pauses_abandon q id stream.startReceive.1 timeout hend)

end LiveMedia.Provider
