import LiveMedia.Proofs.Provider.Clock

set_option autoImplicit false

/-!
# When the reaper removes a channel

The reaper removes a channel when it has been silent for longer than allowed, and not before; it
does so within one interval, however its sweeps lie. Nothing counts as the end of a silence but what
the channel itself does: a packet that is refused and what happens on other channels do not. To be
taken into the table does not either, so a channel that was built long before may be silent for too
long when it is taken in.

## Main definitions

* `LiveMedia.Provider.heardAt` — when a sign of life was given.
* `LiveMedia.Provider.Undisturbed` — a session gives no more signs of life in a run.
* `LiveMedia.Provider.Awaits` — the reaper sweeps in time for a session.

## Main results

* `LiveMedia.Provider.Awaits.tickAt` — no sweep is too late for a session that stays.
* `LiveMedia.Provider.Turn.awaits` — every act that leaves the session alone keeps this so.
* `LiveMedia.Provider.reaper_punctual` — the reaper removes a silent channel neither too early nor
  too late.
* `LiveMedia.Provider.reaper_unaware_of_newcomer` — a channel that is taken in long after it was
  built.
-/

namespace LiveMedia.Provider

variable {p q : Provider} {sid : SessionId} {a : Act} {acts : List Act} {l : Life} {interval : Nat}
  {taken : Time} {K : SessionId → Prop}

/-- No act of the run is a sign of life of the session, and the session keeps its timeout. -/
def Undisturbed (sid : SessionId) : Provider → List Act → Prop
  | _, [] => True
  | p, a :: acts => p.Leaves sid a ∧ Undisturbed sid (p.act a) acts

/-! ## The last sign of life -/

/-- When the last sign of life was given that an act brings: by the clock, but for a channel that was
built before it is taken in. -/
def heardAt (p : Provider) : Act → Time
  | .op (.enroll _ past _ _) => p.now - past.silence
  | _ => p.now

/-- **A sign of life is dated by when it was given.** -/
lemma Refreshes.lastReceived (h : p.Refreshes sid a) (hl : (p.act a).life? sid = some l) :
    l.lastReceived = p.heardAt a := by
  cases a with
  | mark id =>
    cases (h : id = sid)
    exact lastReceived_markReceived hl
  | op o =>
    cases o with
    | enroll c past timeout stream => exact (enrolls_enroll p c past timeout _).lastReceived h hl
    | createChannel c timeout target =>
      exact (enrolls_createChannel p c timeout target).lastReceived h hl
    | ingest c packet => exact (receives_ingest p c packet).lastReceived h.1 h.2 hl
    | touch c =>
      have hc : p.channels.get? c = some sid := h
      have htouch : (p.act (.op (.touch c))) = p.markReceived sid := by
        show (p.touch c).2 = _
        rw [touch, hc]
      rw [htouch] at hl
      exact lastReceived_markReceived hl
    | _ => cases h
  | _ => cases h

/-- The clock stands still at a sign of life. -/
lemma Refreshes.now (h : p.Refreshes sid a) (hturn : Turn p a q) : q.now = p.now := by
  cases hturn with
  | still hspares => exact hspares.now
  | _ => cases h

/-! ## Waiting for the reaper -/

/-- The session was last heard of as `l` says, and if it stays in the table, the next sweep of the
reaper is no later than one interval after its time is up and it has been taken in. -/
structure Awaits (sid : SessionId) (taken : Time) (l : Life) (p : Provider) : Prop where
  life : p.life? sid = some l
  deadline : 0 < l.timeout → p.isLive sid = true →
    ∀ d ∈ p.due, d ≤ max (l.lastReceived + l.timeout) taken + p.settings.sweepInterval

namespace Awaits

lemma spares (h : Awaits sid taken l p) (hs : Spares K p q) (hK : K sid) : Awaits sid taken l q where
  life := (hs.life sid hK).trans h.life
  deadline hpos hlive := by
    rw [hs.due, hs.settings]
    exact h.deadline hpos (hs.live sid hK hlive)

/-- **No sweep is too late for a session that stays.** A session that stays at a sweep was not
silent for too long, so the sweep one interval later is in time for it. -/
lemma tickAt (h : Awaits sid taken l p) (hquiet : p.HookQuiet) (x : Time) :
    Awaits sid taken l (p.tickAt x) := by
  have hsweep := spares_tickAt (K := fun _ => True) hquiet x
  refine ⟨(hsweep.life sid trivial).trans h.life, fun hpos hlive d hd => ?_⟩
  have hstays : l.isExpired x = false :=
    not_isExpired_of_sweep (p := { p with now := x }) hquiet hlive l h.life
  have hx : x ≤ l.lastReceived + l.timeout := by
    by_contra hlate
    rw [Life.isExpired_iff.2 ⟨hpos, Nat.lt_of_not_le hlate⟩] at hstays
    cases hstays
  rw [hsweep.due] at hd
  cases hd
  rw [hsweep.settings]
  exact Nat.add_le_add_right (hx.trans (le_max_left _ _)) _

lemma sleep (h : Awaits sid taken l p) (hp : Timely interval p) (ms : Nat) :
    Awaits sid taken l (p.sleep ms) := by
  have hwake : Awaits sid taken l (p.wake (p.now + ms)) :=
    (wake_induction hp h fun q d hq _ _ hawaits => hawaits.tickAt hq.quiet d).1
  exact ⟨hwake.life, hwake.deadline⟩

end Awaits

/-- **An act that leaves the session alone does not make the reaper too late for it.** -/
lemma Turn.awaits (h : Turn p a q) (hp : Timely interval p) (hawaits : Awaits sid taken l p)
    (hleave : p.Leaves sid a) : Awaits sid taken l q := by
  cases h with
  | still h =>
    refine hawaits.spares h ⟨?_, hleave⟩
    rw [hawaits.life]
    exact Option.some_ne_none l
  | start => exact hawaits.tickAt hp.quiet p.now
  | sleep ms => exact hawaits.sleep hp ms
  | shutdown h =>
    have hstopped : Awaits sid taken l { p with due := none } := ⟨hawaits.life, nofun⟩
    exact hstopped.spares h trivial
  | setHook hook h => exact ⟨hawaits.life, hawaits.deadline⟩

/-- The reaper is not too late for a session that is left alone. -/
lemma Awaits.perform (h : Awaits sid taken l p) (hp : Timely interval p)
    (hquiet : ∀ a ∈ acts, a.IsQuiet) (hrest : Undisturbed sid p acts) :
    Awaits sid taken l (p.perform acts) := by
  induction acts generalizing p with
  | nil => exact h
  | cons a acts ih =>
    have hturn : Turn p a (p.act a) := turn hp.quiet (hquiet a List.mem_cons_self)
    exact ih (hturn.awaits hp h hrest.1) (hturn.timely hp)
      (fun b hb => hquiet b (List.mem_cons_of_mem a hb)) hrest.2

/-! ## Removals -/

/-- What a sweep at the clock removes has been silent for too long. -/
lemma SweepRemoves.isExpired (h : p.SweepRemoves sid) (hquiet : p.HookQuiet)
    (hlife : p.life? sid = some l) : l.isExpired p.now = true := by
  obtain ⟨l', hl', hexpired⟩ := isExpired_of_sweepIn hquiet h.1 h.2
  rw [hlife] at hl'
  cases hl'
  exact hexpired

lemma Awaits.isExpired_of_mem_sweepStates (h : Awaits sid taken l p) (hp : Timely interval p)
    {times : List Time} {x : Provider} (hx : x ∈ p.sweepStates times)
    (hremoves : x.SweepRemoves sid) : l.isExpired x.now = true := by
  induction times generalizing p with
  | nil => cases hx
  | cons time times ih =>
    rcases List.mem_cons.1 hx with rfl | hx
    · exact hremoves.isExpired hp.quiet h.life
    · exact ih (h.tickAt hp.quiet time) (hp.tickAt time) hx

/-- **The reaper removes a session that is left alone only when its time is up.** -/
lemma Awaits.isExpired_of_mem_sweeps (h : Awaits sid taken l p) (hp : Timely interval p)
    (hquiet : ∀ a ∈ acts, a.IsQuiet) (hrest : Undisturbed sid p acts) {x : Provider}
    (hx : x ∈ p.sweeps acts) (hremoves : x.SweepRemoves sid) : l.isExpired x.now = true := by
  induction acts generalizing p with
  | nil => cases hx
  | cons a acts ih =>
    have hturn : Turn p a (p.act a) := turn hp.quiet (hquiet a List.mem_cons_self)
    rcases List.mem_append.1 hx with hx | hx
    · unfold sweepsOf at hx
      split at hx
      · split at hx
        · cases hx
        · cases List.mem_singleton.1 hx
          exact hremoves.isExpired hp.quiet h.life
      · exact h.isExpired_of_mem_sweepStates hp hx hremoves
      · cases hx
    · exact ih (hturn.awaits hp h hrest.1) (hturn.timely hp)
        (fun b hb => hquiet b (List.mem_cons_of_mem a hb)) hrest.2 hx

/-! ## The time of a removal -/

/-- **The reaper removes a silent channel neither too early nor too late.** In every run in which
the clock moves on by sleeping and no hook gives signs of life, take the last sign of life of a
session that comes with an act: the session is taken in, and its last sign of life was to be built;
or a packet is accepted, or the session is touched or marked. From then on, as long as its timeout
stays as it is,

* nothing moves that sign of life, neither a packet that is refused nor what is done to other
  channels;
* no sweep of the reaper removes the session, except after its time is up, and none ever does if it
  is allowed any silence;
* if the reaper runs, the session is not in the table when one interval has passed since its time
  was up and it was taken in, whenever the reaper was started. Once it is in the table, every other
  sign of life is given at the clock, so that the interval is counted from when its time is up.

The times at which acts are done are no limit: a sleep may be cut at any of them
(`Timely.sleep_add`), and a consumer that waits for packets lets time pass in the same way
(`Timely.pauses_receive`).

**Proof sketch.** The time at which the next sweep is due is carried along (`Awaits`). At the act
it is at most one interval ahead (`Timely`). A sweep moves it by one interval, and a session
that stays at that sweep had not been silent for too long (`Awaits.tickAt`), so the next one is not
more than an interval after its time is up. The reaper is never behind, so the clock is before
the next sweep. -/
theorem reaper_punctual (name : String) (settings : Settings) {before after : List Act} {a : Act}
    {p : Provider} {sid : SessionId} {s : Session}
    (hp : p = ({ name, settings } : Provider).perform before)
    (hquiet : ∀ b ∈ before ++ a :: after, b.IsQuiet)
    (hrefresh : p.Refreshes sid a) (hs : (p.act a).sessions.get? sid = some s)
    (hrest : Undisturbed sid (p.act a) after) :
    let r := (p.act a).perform after
    let t := p.heardAt a
    (∃ s', r.sessions.get? sid = some s' ∧ s'.lastReceived = t ∧ s'.timeout = s.timeout) ∧
      (∀ x ∈ (p.act a).sweeps after, x.SweepRemoves sid →
        0 < s.timeout ∧ t + s.timeout < x.now) ∧
      (0 < s.timeout → r.isRunning = true → r.isLive sid = true →
        r.now < max (t + s.timeout) p.now + settings.sweepInterval) := by
  intro r t
  have hbefore : ∀ b ∈ before, b.IsQuiet := fun b hb => hquiet b (List.mem_append_left _ hb)
  have ha : a.IsQuiet := hquiet a (List.mem_append_right _ List.mem_cons_self)
  have hafter : ∀ b ∈ after, b.IsQuiet := fun b hb =>
    hquiet b (List.mem_append_right _ (List.mem_cons_of_mem a hb))
  have htimely : Timely settings.sweepInterval p := by
    rw [hp]
    exact (timely_new name settings).perform hbefore
  have hturn : Turn p a (p.act a) := turn htimely.quiet ha
  have htimely' : Timely settings.sweepInterval (p.act a) := hturn.timely htimely
  have hlife : (p.act a).life? sid = some s.life := life?_eq_some_iff.2 ⟨s, hs, rfl⟩
  have hlast : s.lastReceived = t := hrefresh.lastReceived hlife
  -- the next sweep after the act is at most one interval away
  have hawaits : Awaits sid p.now s.life (p.act a) := by
    refine ⟨hlife, fun _ _ d hd => ?_⟩
    have hnear := htimely'.near d hd
    rw [hrefresh.now hturn] at hnear
    rw [htimely'.rhythm]
    exact hnear.trans (Nat.add_le_add_right (le_max_right _ _) _)
  have hfinal : Awaits sid p.now s.life r := hawaits.perform htimely' hafter hrest
  have htimelyr : Timely settings.sweepInterval r := htimely'.perform hafter
  refine ⟨?_, fun x hx hremoves => ?_, fun hpos hrunning hlive => ?_⟩
  · obtain ⟨s', hs', hlife'⟩ := life?_eq_some_iff.1 hfinal.life
    refine ⟨s', hs', ?_, congrArg Life.timeout hlife'⟩
    rw [← hlast]
    exact congrArg Life.lastReceived hlife'
  · have hexpired := hawaits.isExpired_of_mem_sweeps htimely' hafter hrest hx hremoves
    rw [← hlast]
    exact Life.isExpired_iff.1 hexpired
  · obtain ⟨d, hd⟩ := Option.isSome_iff_exists.1 hrunning
    have hdeadline := hfinal.deadline hpos hlive d hd
    rw [htimelyr.rhythm] at hdeadline
    rw [← hlast]
    exact Nat.lt_of_lt_of_le (htimelyr.ahead d hd) hdeadline

/-- A channel that is allowed 70 ms of silence is taken in at 30 ms, 20 ms after it was built. A
packet for it is refused, and another channel is touched. It survives the sweep at 80 ms, when its
time is just up, and not the next one. -/
theorem reaper_punctual_at_boundary :
    let before : List Act := [.op .start, .op (.createChannel 8 none none), .op (.sleep 30)]
    let taken : Act := .op (.enroll 7 (.ago 20) (some 70) none)
    let after : List Act :=
      [.op (.sleep 40), .op (.ingest 7 ⟨1, 0, 0, .millis, .opus, .raw, [], none, false⟩),
        .op (.touch 8), .op (.sleep 90)]
    let p := ({ name := "media", settings := { reapInterval := 80 } } : Provider).perform before
    let q := p.act taken
    (q.sweeps after).map Provider.now = [80, 160] ∧
      (∀ x ∈ q.sweeps after, x.SweepRemoves 1 → 80 < x.now) ∧
      (q.perform after).now = 160 ∧ (q.perform after).isLive 1 = false := by
  intro before taken after p q
  have hquiet : ∀ b ∈ before ++ taken :: after, b.IsQuiet := by
    simp [before, taken, after, Act.IsQuiet]
  have htaken : p.Refreshes 1 taken := rfl
  have hsession : q.sessions.get? 1 = some ⟨7, 10, 10, 70, none, {}⟩ := rfl
  have hrest : Undisturbed 1 q after := by
    refine ⟨⟨id, id⟩, ⟨fun hrefused => ?_, id⟩, ⟨fun hother => ?_, id⟩, ⟨id, id⟩, trivial⟩
    · cases hrefused.2
    · cases hother
  have hnow : (q.perform after).now = 160 := by decide
  obtain ⟨-, hearly, hlate⟩ := reaper_punctual "media" { reapInterval := 80 } rfl hquiet htaken
    hsession hrest
  refine ⟨by decide, fun x hx h => (hearly x hx h).2, hnow, ?_⟩
  by_contra hlive
  have hintime := hlate (by decide) (by decide) (by simpa using hlive)
  rw [hnow] at hintime
  exact absurd hintime (by decide)

/-- **A channel may be taken in when its time is long up.** The reaper sweeps every 10 ms from the
start. A channel is built at the start and taken in at 25 ms. If it is allowed 1 ms of silence, it is
in the table then, and at 29 ms still, though an interval has long passed since its time was up. If it
is allowed 6 ms, the next sweep removes it, though it has not been in the table for that long. -/
theorem reaper_unaware_of_newcomer :
    let p := ({ name := "media", settings := { reapInterval := 10 } } : Provider).perform
      [.op .start, .op (.sleep 25)]
    let taken (timeout : Nat) := p.act (.op (.enroll 7 (.ago 25) (some timeout) none))
    let kept := (taken 1).perform [.op (.sleep 4)]
    (∃ s, kept.sessions.get? 0 = some s ∧ s.createdAt = 0 ∧ s.lastReceived = 0 ∧ s.timeout = 1) ∧
      kept.isRunning = true ∧ kept.isLive 0 = true ∧ max (0 + 1) 0 + 10 ≤ kept.now ∧
    ∃ x ∈ (taken 6).sweeps [.op (.sleep 5)], x.SweepRemoves 0 ∧ x.now ≤ p.now + 6 := by
  intro p taken kept
  have hsession : kept.sessions.get? 0 = some ⟨7, 0, 0, 1, none, {}⟩ := rfl
  have hdue : (taken 6).dueTimes ((taken 6).now + 5) = [30] := by decide
  have hsweep : { taken 6 with now := 30 } ∈ (taken 6).sweeps [.op (.sleep 5)] := by
    refine List.mem_append_left _ ?_
    rw [sweepsOf, hdue]
    exact List.mem_cons_self
  have hremoves : SweepRemoves { taken 6 with now := 30 } 0 := ⟨by decide, by decide⟩
  exact ⟨⟨_, hsession, rfl, rfl, rfl⟩, by decide, by decide, by decide, _, hsweep, hremoves,
    by decide⟩

end LiveMedia.Provider
