import LiveMedia.Proofs.Provider.Reaping
import LiveMedia.Proofs.Table
import Mathlib.Data.List.Nodup

set_option autoImplicit false

/-!
# Sweeps in any order

A sweep visits the sessions of the table in whatever order it finds them, and removes the same
channels in every order: those that have been silent for too long, and still would have been after
the sign of life that the hook gives them. All that is left, but for the logs, is the same as well.

## Main definitions

* `LiveMedia.Provider.Lapses` — a channel has been silent for too long, whatever the hook does.
* `LiveMedia.Provider.Swept` — what a sweep makes of a provider.

## Main results

* `LiveMedia.Provider.swept_reaping` — what has been removed, and what is left.
* `LiveMedia.Provider.sweepIn_exact` — a sweep in any order.
* `LiveMedia.Provider.sweepIn_keeps_foreign_entry` — a sweep of an application that was used past the
  provider.
-/

namespace LiveMedia.Provider

variable {p q : Provider} {sid : SessionId} {c : ChannelId} {s : Session} {now : Time}
  {R D D' order : List SessionId}

/-! ## The sessions of the table -/

/-- The session that a channel stands for names the channel. -/
lemma session_of_get?_channels (h : p.wiring.Sound) (hc : p.channels.get? c = some sid) :
    ∃ s, p.sessions.get? sid = some s ∧ s.channel = c := by
  obtain ⟨b, hb⟩ := h.session_of_channel hc
  obtain ⟨s, hs, hchannel, -⟩ := session?_eq_some_iff.1 hb
  exact ⟨s, hs, hchannel⟩

lemma isLive_of_mem_values (h : p.wiring.Sound) (hsid : sid ∈ p.channels.values) :
    p.isLive sid = true := by
  obtain ⟨c, hc⟩ := Table.mem_values_iff.1 hsid
  obtain ⟨s, hs, rfl⟩ := session_of_get?_channels h hc
  exact (Option.any_eq_true _ _).2 ⟨s, hs, beq_iff_eq.2 hc⟩

/-- The table holds no session twice. -/
lemma nodup_values (h : p.wiring.Sound) : p.channels.values.Nodup := by
  refine List.Nodup.map_on ?_ (Table.nodup_entries p.channels)
  rintro ⟨c, sid⟩ he ⟨c', sid'⟩ he' rfl
  obtain ⟨s, hs, rfl⟩ := session_of_get?_channels h (Table.get?_eq_some_iff.2 he)
  obtain ⟨s', hs', rfl⟩ := session_of_get?_channels h (Table.get?_eq_some_iff.2 he')
  cases hs.symm.trans hs'
  rfl

/-! ## What a sweep removes -/

/-- A channel of the table lapses if it has been silent for longer than allowed, and still would
have been if it had just given a sign of life, should the hook give it one. -/
def Lapses (p : Provider) (R : List SessionId) (now : Time) (c : ChannelId) : Prop :=
  ∃ sid s, p.find? c = some (sid, s) ∧ 0 < s.timeout ∧ s.timeout < now - s.lastReceived ∧
    (sid ∈ R → s.timeout < now - p.now)

/-- The session of the channel lapses. -/
lemma lapses_iff : p.Lapses R now c ↔
    ∃ sid, p.channels.get? c = some sid ∧ p.lapses R now sid = true := by
  constructor
  · rintro ⟨sid, s, hfind, hpos, hsilent, hhook⟩
    obtain ⟨hc, hs⟩ := find?_eq_some_iff.1 hfind
    refine ⟨sid, hc, ?_⟩
    rw [lapses_of_get? hs, Bool.and_eq_true]
    refine ⟨Session.isExpired_iff.2 ⟨hpos, hsilent⟩, ?_⟩
    unfold marked
    split
    · next hR => exact Session.isExpired_iff.2 ⟨hpos, hhook hR⟩
    · exact Session.isExpired_iff.2 ⟨hpos, hsilent⟩
  · rintro ⟨sid, hc, hlapses⟩
    have hboth := hlapses
    rw [lapses, Bool.and_eq_true] at hboth
    obtain ⟨s, hs, -⟩ := (Option.any_eq_true _ _).1 hboth.1
    rw [lapses_of_get? hs, Bool.and_eq_true] at hlapses
    obtain ⟨hpos, hsilent⟩ := Session.isExpired_iff.1 hlapses.1
    refine ⟨sid, s, find?_eq_some_iff.2 ⟨hc, hs⟩, hpos, hsilent, fun hR => ?_⟩
    have hmarked := hlapses.2
    rw [marked, if_pos hR] at hmarked
    exact (Session.isExpired_iff.1 hmarked).2

/-- What a sweep at `now` makes of a provider whose hook gives signs of life to the sessions in `R`,
if it removes the channels in `gone`. -/
structure Swept (p : Provider) (R : List SessionId) (now : Time) (gone : List ChannelId)
    (q : Provider) : Prop where
  nodup : gone.Nodup
  mem_gone : ∀ c, c ∈ gone ↔ p.Lapses R now c
  /-- Just these channels leave the table. -/
  channels : ∀ c, q.channels.get? c = if c ∈ gone then none else p.channels.get? c
  /-- They are counted as removed, and as silent. -/
  counters : q.counters = { p.counters with
    deleted := p.counters.deleted + gone.length
    reaped := p.counters.reaped + gone.length }
  /-- They are bound to nothing. The sessions of the hook have given a sign of life if it was called
  at all. -/
  session : ∀ sid s, p.sessions.get? sid = some s → q.sessions.get? sid = some { s with
    lastReceived := if sid ∈ R ∧ p.hasSilent now then p.now else s.lastReceived
    binding := if s.channel ∈ gone then none else s.binding }
  /-- Their streams are detached. -/
  entry : ∀ A name c st, (q.application A).streams.get? name = some ⟨c, st⟩ ↔
    c ∉ gone ∧ (p.application A).streams.get? name = some ⟨c, st⟩
  /-- Their streams are closed. -/
  closed : ∀ c ∈ gone, ∀ A st, p.Carries c ⟨A, st⟩ →
    ∃ x, p.streams.get? st = some x ∧ q.streams.get? st = some x.close ∧ x.close.isClosed = true
  /-- All other streams are as they were. -/
  stream : ∀ st, (∀ c ∈ gone, ∀ A, ¬p.Carries c ⟨A, st⟩) → q.streams.get? st = p.streams.get? st
  /-- The applications are what they were, but for what they have attached. -/
  application : ∀ A a, p.applications.get? A = some a →
    q.applications.get? A = some { a with streams := (q.application A).streams }
  /-- Nothing else has changed but the logs. -/
  same : q = { p with
    sessions := q.sessions
    applications := q.applications
    streams := q.streams
    channels := q.channels
    counters := q.counters
    warnings := q.warnings
    hookCalls := q.hookCalls }

/-- The sessions in `D` are those of the table that lapse, each of them once. -/
structure AllLapsed (p : Provider) (R : List SessionId) (now : Time) (D : List SessionId) :
    Prop where
  nodup : D.Nodup
  mem_iff : ∀ sid, sid ∈ D ↔ p.isLive sid = true ∧ p.lapses R now sid = true

namespace AllLapsed

/-- The sessions that lapse are known by their channels. -/
lemma mem_channels_iff (hD : p.AllLapsed R now D) (h : p.wiring.Sound) :
    c ∈ D.map p.channelOf ↔ ∃ sid ∈ D, p.channels.get? c = some sid := by
  rw [List.mem_map]
  refine exists_congr fun sid => and_congr_right fun hsid => ?_
  obtain ⟨s, hs, hlive⟩ := (Option.any_eq_true _ _).1 ((hD.mem_iff sid).1 hsid).1
  rw [channelOf_of_get? hs]
  constructor
  · rintro rfl
    exact eq_of_beq hlive
  · intro hc
    obtain ⟨s', hs', rfl⟩ := session_of_get?_channels h hc
    cases hs.symm.trans hs'
    rfl

/-- Who publishes lapses just if its channel does. -/
lemma mem_iff_of_publishes (hD : p.AllLapsed R now D) (h : p.wiring.Sound) {b : Binding}
    (hp : p.wiring.Publishes sid c b) : sid ∈ D ↔ c ∈ D.map p.channelOf := by
  rw [hD.mem_channels_iff h]
  constructor
  · exact fun hsid => ⟨sid, hsid, h.channel_of_publishes hp⟩
  · rintro ⟨sid', hsid', hc⟩
    cases hc.symm.trans (h.channel_of_publishes hp)
    exact hsid'

/-- What is given up is what the channels publish that lapse. -/
lemma mem_bindingsOf_iff (hD : p.AllLapsed R now D) (h : p.wiring.Sound) {M : List SessionId}
    {b : Binding} : b ∈ (p.marking M).bindingsOf D ↔
      ∃ c ∈ D.map p.channelOf, p.Carries c b := by
  rw [mem_bindingsOf_iff_publishes, wiring_marking]
  constructor
  · rintro ⟨sid, hsid, c, hp⟩
    exact ⟨c, (hD.mem_iff_of_publishes h hp).1 hsid, (carries_iff h).2 ⟨sid, hp⟩⟩
  · rintro ⟨c, hc, hcarries⟩
    obtain ⟨sid, hp⟩ := (carries_iff h).1 hcarries
    exact ⟨sid, (hD.mem_iff_of_publishes h hp).2 hc, c, hp⟩

end AllLapsed

/-- The sessions that give a sign of life in a sweep: none, unless the hook is called. -/
def refreshed (p : Provider) (R : List SessionId) (now : Time) : List SessionId :=
  if p.hasSilent now then R else []

/-- **What has been removed, and what is left.** -/
lemma swept_reaping (h : p.wiring.Sound) (hD : p.AllLapsed R now D) (warnings : List Warning)
    (calls : List (Time × ChannelId)) :
    Swept p R now (D.map p.channelOf)
      ((p.reaping (p.refreshed R now) D).withLogs warnings calls) where
  nodup := by
    refine List.Nodup.map_on (fun sid hsid sid' hsid' heq => ?_) hD.nodup
    obtain ⟨s, hs, hlive⟩ := (Option.any_eq_true _ _).1 ((hD.mem_iff sid).1 hsid).1
    obtain ⟨s', hs', hlive'⟩ := (Option.any_eq_true _ _).1 ((hD.mem_iff sid').1 hsid').1
    rw [channelOf_of_get? hs, channelOf_of_get? hs'] at heq
    rw [heq] at hlive
    exact Option.some.inj ((eq_of_beq hlive).symm.trans (eq_of_beq hlive'))
  mem_gone c := by
    rw [hD.mem_channels_iff h, lapses_iff]
    constructor
    · rintro ⟨sid, hsid, hc⟩
      exact ⟨sid, hc, ((hD.mem_iff sid).1 hsid).2⟩
    · rintro ⟨sid, hc, hlapses⟩
      have hlive : p.isLive sid = true :=
        isLive_of_mem_values h (Table.mem_values_iff.2 ⟨c, hc⟩)
      exact ⟨sid, (hD.mem_iff sid).2 ⟨hlive, hlapses⟩, hc⟩
  channels c := by
    refine (channels_reaping p (p.refreshed R now) D c).trans ?_
    simp only [hD.mem_channels_iff h]
    cases hc : p.channels.get? c with
    | none => simp
    | some sid => by_cases hsid : sid ∈ D <;> simp [hsid]
  counters := by
    rw [List.length_map]
    rfl
  session sid s hs := by
    refine (get?_reaping hs _ D).trans (congrArg some ?_)
    have hbinding : (letGo D sid s).binding = if s.channel ∈ D.map p.channelOf then none
        else s.binding := by
      unfold letGo
      cases hb : s.binding with
      | none => split <;> simp [hb]
      | some b =>
        have hp : p.wiring.Publishes sid s.channel b := publishes_iff.2 ⟨s, hs, rfl, hb⟩
        by_cases hsid : sid ∈ D
        · rw [if_pos hsid, if_pos ((hD.mem_iff_of_publishes h hp).1 hsid)]
        · rw [if_neg hsid, if_neg (mt (hD.mem_iff_of_publishes h hp).2 hsid), hb]
    rw [← hbinding]
    unfold letGo marked refreshed
    cases p.hasSilent now <;> by_cases hsid : sid ∈ D <;> by_cases hR : sid ∈ R <;>
      simp [hsid, hR]
  entry A name c st := by
    refine (entry_without (p := p.marking (p.refreshed R now)) (e := ⟨c, st⟩)).trans ?_
    refine and_congr_left fun he => not_congr ?_
    obtain ⟨sid, key, hp, -⟩ := h.publishes_of_entry he
    rw [hD.mem_bindingsOf_iff h]
    constructor
    · rintro ⟨c', hc', hcarries⟩
      rwa [((carries_iff h).2 ⟨sid, hp⟩).channel_unique h hcarries]
    · exact fun hc => ⟨c, hc, (carries_iff h).2 ⟨sid, hp⟩⟩
  closed c hc A st hcarries := by
    obtain ⟨x, hx, -⟩ := hcarries.stream h
    have hb := (hD.mem_bindingsOf_iff h (M := p.refreshed R now)).2 ⟨c, hc, hcarries⟩
    exact ⟨x, hx, stream_without_of_mem (p := p.marking (p.refreshed R now)) hb hx⟩
  stream st hst := by
    refine stream_without_of_not_mem (p := p.marking (p.refreshed R now)) fun A hb => ?_
    obtain ⟨c, hc, hcarries⟩ := (hD.mem_bindingsOf_iff h).1 hb
    exact hst c hc A hcarries
  application A a ha := by
    have hget : ((p.reaping (p.refreshed R now) D).withLogs warnings calls).applications.get? A =
        some (withoutStreams ((p.marking (p.refreshed R now)).bindingsOf D) A a) := by
      show (p.applications.mapIdx _).get? A = _
      rw [Store.get?_mapIdx, ha, Option.map_some]
    rw [Provider.application, hget]
    rfl
  same := rfl

/-! ## A sweep in any order -/

/-- The order in which the sessions are named does not matter. -/
lemma reaping_perm (h : D.Perm D') (p : Provider) (M : List SessionId) :
    p.reaping M D = p.reaping M D' := by
  unfold reaping
  rw [without_congr (p.marking M) fun sid => h.mem_iff, h.length_eq]
  simp only [h.mem_iff]

/-- **A sweep removes the same channels in every order, and leaves the same.** Take any reachable
state, in which applications have been used through the provider only, any time of the sweep, and a
hook that does nothing but give signs of life, at the clock, to certain sessions. In whatever order the sessions of the table are visited, the sweep removes and
returns, each once, just the channels that are allowed a silence and have been silent for longer, and
that still would have been after a sign of life if the hook gives them one. They leave the table,
are bound to nothing, and their streams are detached and closed; they are counted. All other channels
keep what they are bound to, and all other streams stay as they are. If any channel was silent for
too long, the hook has given its signs of life; otherwise it has given none. In any other order, what
is left of the provider is the same but for the logs, and the same channels are returned.

**Proof sketch.** After some visits, those that lapse among the sessions visited have been removed,
and the hook has been called if one of them was silent (`sweepIn_eq`). This depends on the order only
in what is logged, since sessions that are let go one after another are let go at once
(`foldl_releaseDeleted`), and to give a sign of life twice is to give it once. -/
theorem sweepIn_exact (hp : p.Reachable) (hhook : p.HookMarks R) (now : Time)
    (horder : order.Perm p.channels.values) :
    let r := p.sweepIn order now
    Swept p R now r.2 r.1 ∧
      ∀ order' : List SessionId, order'.Perm p.channels.values →
        (p.sweepIn order' now).2.Perm r.2 ∧ (p.sweepIn order' now).1.clearLogs = r.1.clearLogs := by
  intro r
  have h : p.wiring.Sound := hp.sound
  let D := p.channels.values.filter (p.lapses R now)
  -- in every order the same sessions lapse, and the hook is called or not
  have hsweep : ∀ order' : List SessionId, order'.Perm p.channels.values →
      ∃ D' warnings calls, D'.Perm D ∧ p.sweepIn order' now =
        ((p.reaping (p.refreshed R now) D').withLogs warnings calls,
          D'.map p.channelOf) := by
    intro order' horder'
    obtain ⟨warnings, calls, heq⟩ := sweepIn_eq h hp.inTime.heard hhook
      (horder'.nodup_iff.2 (nodup_values h))
      (fun id hid => isLive_of_mem_values h (horder'.mem_iff.1 hid)) now
    rw [horder'.any_eq] at heq
    exact ⟨_, warnings, calls, horder'.filter _, heq⟩
  obtain ⟨E, warnings, calls, hE, hr⟩ := hsweep order horder
  have hlapsed : p.AllLapsed R now E := by
    refine ⟨hE.nodup_iff.2 ((nodup_values h).filter _), fun sid => ?_⟩
    rw [hE.mem_iff, List.mem_filter]
    refine and_congr_left fun _ => ⟨isLive_of_mem_values h, mem_values_of_isLive⟩
  refine ⟨?_, fun order' horder' => ?_⟩
  · show Swept p R now (p.sweepIn order now).2 (p.sweepIn order now).1
    rw [hr]
    exact swept_reaping h hlapsed warnings calls
  · obtain ⟨E', warnings', calls', hE', hr'⟩ := hsweep order' horder'
    have hperm : E'.Perm E := hE'.trans hE.symm
    show (p.sweepIn order' now).2.Perm (p.sweepIn order now).2 ∧
      (p.sweepIn order' now).1.clearLogs = (p.sweepIn order now).1.clearLogs
    rw [hr, hr']
    refine ⟨hperm.map _, ?_⟩
    rw [reaping_perm hperm]
    rfl

/-- Three channels have been silent for too long. The hook gives signs of life to two of them, the
second of which is allowed so little silence that it is removed all the same. -/
theorem sweepIn_exact_refreshed :
    let p := run { name := "media" } [.createApplication "live",
      .createChannel 7 (some 100) (some ⟨0, "cam", []⟩),
      .createChannel 8 (some 100) (some ⟨0, "mic", []⟩), .createChannel 9 (some 20) none,
      .setHook (some ⟨fun _ _ => [1, 2]⟩), .sleep 200]
    let r := p.sweepIn [1, 0, 2] 250
    r.2 = [7, 9] ∧ Swept p [1, 2] 250 [7, 9] r.1 ∧
      (p.sweepIn [2, 1, 0] 250).1.clearLogs = r.1.clearLogs ∧
      (r.1.sessions.get? 1).map Session.lastReceived = some 200 ∧
      (r.1.application 0).streams.keys = ["mic"] := by
  intro p r
  have hp : p.Reachable := reachable_run "media" {} _
  have hhook : p.HookMarks [1, 2] := fun _ _ _ => Iff.rfl
  have hvalues : p.channels.values = [0, 1, 2] := by decide
  have hgone : r.2 = [7, 9] := by decide
  have hfirst : List.Perm [1, 0, 2] p.channels.values := by
    rw [hvalues]
    decide
  have hsecond : List.Perm [2, 1, 0] p.channels.values := by
    rw [hvalues]
    decide
  obtain ⟨hswept, hother⟩ := sweepIn_exact hp hhook 250 hfirst
  refine ⟨hgone, hgone ▸ hswept, (hother [2, 1, 0] hsecond).2, by decide, by decide⟩

/-- **An application that is used past the provider may keep the stream of a removed channel.** The
stream of a channel is detached by hand and attached again under another number. The sweep that
removes the channel closes the stream, but it looks for the number of the channel in the application
and finds nothing to detach. -/
theorem sweepIn_keeps_foreign_entry :
    let created := run { name := "media" } [.createApplication "live",
      .createChannel 5 (some 50) (some ⟨0, "cam", []⟩), .sleep 100]
    let p := (outcome (attachStream 0 7 0 ⟨"live", "cam"⟩) (created.detachStream 0 5).2).2
    let r := p.sweepIn [0] 100
    p.HookMarks [] ∧ List.Perm [0] p.channels.values ∧ p.Carries 5 ⟨0, 0⟩ ∧ r.2 = [5] ∧
      (r.1.streams.get? 0).map Stream.isClosed = some true ∧
      (r.1.application 0).streams.get? "cam" = some ⟨7, 0⟩ := by
  intro created p r
  have hvalues : p.channels.values = [0] := by decide
  have hcarries : p.Carries 5 ⟨0, 0⟩ := ⟨0, ⟨5, 0, 0, 50, some ⟨0, 0⟩, {}⟩, by decide, rfl⟩
  exact ⟨rfl, by rw [hvalues], hcarries, by decide, by decide, by decide⟩

end LiveMedia.Provider
