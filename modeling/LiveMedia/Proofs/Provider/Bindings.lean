import LiveMedia.Proofs.Provider.Creation
import LiveMedia.Proofs.Provider.Removal

set_option autoImplicit false

/-!
# Who publishes what

Whatever is done to a provider, its applications have exactly the streams that the channels of its
table publish into them.

## Main definitions

* `LiveMedia.Provider.Op`, `LiveMedia.Provider.apply`, `LiveMedia.Provider.run` — operation after
  operation, refused ones among them.
* `LiveMedia.Provider.Carries` — a channel of the table publishes a stream.

## Main results

* `LiveMedia.Provider.sound_apply`, `LiveMedia.Provider.sound_run` — the wiring stays sound.
* `LiveMedia.Provider.run_bindings` — the applications, the channel table and the streams agree in
  every state.
-/

namespace LiveMedia.Provider

variable {p : Provider} {c : ChannelId}

/-! ## Operations -/

/-- What is done to a provider. -/
inductive Op where
  | createApplication (name : String)
  /-- An application object is made that is not in the registry. -/
  | newApplication (name : String)
  /-- A channel that was built before is taken in, with a stream of any key that was made for it. -/
  | enroll (channel : ChannelId) (past : Past) (timeout : Option Nat)
    (stream : Option (ApplicationId × StreamKey × List TrackInfo))
  | createChannel (channel : ChannelId) (timeout : Option Nat) (target : Option Publication)
  | bind (channel : ChannelId) (target : Publication)
  | publish (channel : ChannelId) (application stream : String) (tracks : List TrackInfo)
  | ingest (channel : ChannelId) (packet : Packet)
  | touch (channel : ChannelId)
  | setTimeout (channel : ChannelId) (timeout : Nat)
  | deleteChannel (channel : ChannelId)
  /-- An application object is closed, whether it is in the registry or not. -/
  | evict (application : ApplicationId)
  | deleteApplication (name : String)
  /-- A sweep at any time that visits sessions in any order. -/
  | sweep (order : List SessionId) (now : Time)
  | clear
  | shutdown
  | setHook (hook : Option TimeoutHook)
  | start
  | sleep (ms : Nat)
  | jump (ms : Nat)

/-- The provider after an operation, whether it is refused or not. -/
def apply (p : Provider) : Op → Provider
  | .createApplication name => (p.createApplication name).2
  | .newApplication name => { p with applications := p.applications.add { name } }
  | .enroll c past timeout stream =>
    (outcome (enroll c past timeout (stream.map fun (A, key, infos) =>
      (A, (Stream.create key infos).1))) p).2
  | .createChannel c timeout target => (outcome (createChannel c timeout target) p).2
  | .bind c target => (outcome (bind c target) p).2
  | .publish c application stream tracks => (outcome (publish c application stream tracks) p).2
  | .ingest c packet => (outcome (ingest c packet) p).2
  | .touch c => (p.touch c).2
  | .setTimeout c timeout => (outcome (setTimeout c timeout) p).2
  | .deleteChannel c => (p.deleteChannel c).2
  | .evict A => (p.evict A).2
  | .deleteApplication name => (p.deleteApplication name).2
  | .sweep order now => (p.sweepIn order now).1
  | .clear => p.clear.2
  | .shutdown => p.shutdown
  | .setHook hook => { p with hook }
  | .start => p.start
  | .sleep ms => p.sleep ms
  | .jump ms => p.jump ms

/-- The provider after one operation after another. -/
def run (p : Provider) (ops : List Op) : Provider :=
  ops.foldl apply p

/-! ## Data -/

/-- A stream that is published is there. -/
lemma get?_of_publishedStream? {s : Session} {st : StreamId} {stream : Stream}
    (h : p.publishedStream? s = some (st, stream)) : p.streams.get? st = some stream := by
  simp only [publishedStream?, Option.bind_eq_bind, Option.bind_eq_some_iff, Option.pure_def,
    Option.some_inj, Prod.mk.injEq] at h
  obtain ⟨b, -, stream', hstream, rfl, rfl⟩ := h
  exact hstream

/-- A packet changes nothing of the wiring, whatever comes of it. -/
lemma wiring_ingest (p : Provider) (c : ChannelId) (packet : Packet) :
    (outcome (ingest c packet) p).2.wiring = p.wiring := by
  unfold ingest
  rw [outcome_bind, outcome_get]
  dsimp only
  cases p.find? c with
  | none => exact wiring_dropUnknown p c
  | some found =>
    obtain ⟨sid, s⟩ := found
    dsimp only
    cases hpublished : p.publishedStream? s with
    | none => exact wiring_reject p sid
    | some published =>
      obtain ⟨st, stream⟩ := published
      obtain ⟨hkey, hclosed⟩ := stream.ingest_keeps packet
      have hdelivered : ((p.modifyStream st fun _ => (stream.ingest packet).stream).report
          (stream.ingest packet).warnings).wiring = p.wiring :=
        wiring_modifyStream (get?_of_publishedStream? hpublished) hkey hclosed
      dsimp only
      split
      · exact (wiring_accept _ sid packet.size).trans hdelivered
      · exact (wiring_reject _ sid).trans hdelivered

/-- A sign of life changes nothing of the wiring. -/
lemma wiring_touch (p : Provider) (c : ChannelId) : (p.touch c).2.wiring = p.wiring := by
  unfold touch
  split
  · exact wiring_markReceived p _
  · rfl

/-- Another timeout changes nothing of the wiring. -/
lemma wiring_setTimeout (p : Provider) (c : ChannelId) (timeout : Nat) :
    (outcome (setTimeout c timeout) p).2.wiring = p.wiring := by
  unfold setTimeout
  rw [outcome_bind, outcome_find]
  cases p.find? c with
  | none => rfl
  | some found =>
    dsimp only
    exact wiring_modifySession p found.1 (fun _ => rfl) (fun _ => rfl)

/-! ## The clock -/

/-- A sweep at the clock. -/
lemma sound_tick (h : p.wiring.Sound) (next : Time) : (p.tick next).wiring.Sound :=
  sound_sweepIn h p.channels.values p.now

lemma sound_tickAt (h : p.wiring.Sound) (time : Time) : (p.tickAt time).wiring.Sound :=
  sound_tick (p := { p with now := time }) h _

/-- The clock moves on, with sweeps at their own times. -/
lemma sound_sleep (h : p.wiring.Sound) (ms : Nat) : (p.sleep ms).wiring.Sound :=
  sound_foldl (fun time hq => sound_tickAt hq time) (p.dueTimes (p.now + ms)) h

/-- The clock moves in one step, with sweeps at its end. -/
lemma sound_jump (h : p.wiring.Sound) (ms : Nat) : (p.jump ms).wiring.Sound := by
  have hmoved : ({ p with now := p.now + ms } : Provider).wiring.Sound := h
  unfold jump
  dsimp only
  split
  · exact hmoved
  · split
    · exact sound_tick hmoved _
    · exact sound_foldl (fun _ hq => sound_tick hq _) _ hmoved

/-! ## Operation after operation -/

/-- A new application has no streams. -/
lemma sound_addApplication (h : p.wiring.Sound) (name : String) :
    ({ p with applications := p.applications.add { name } } : Provider).wiring.Sound := by
  rw [wiring_addApplication]
  exact ⟨h.toMatched.opening, h.session_of_channel, h.channel_of_publishes⟩

/-- **Every operation keeps the wiring sound**, whether it is refused or not. -/
lemma sound_apply (h : p.wiring.Sound) (op : Op) : (p.apply op).wiring.Sound := by
  cases op with
  | createApplication name =>
    show (p.createApplication name).2.wiring.Sound
    unfold createApplication
    split
    · exact h
    · exact sound_addApplication h name
  | newApplication name => exact sound_addApplication h name
  | enroll c past timeout stream =>
    refine sound_enroll h c past timeout _ ?_
    intro x hx
    obtain ⟨⟨A, key, infos⟩, -, rfl⟩ := Option.map_eq_some_iff.1 hx
    exact Stream.isClosed_create key infos
  | createChannel c timeout target => exact sound_createChannel h c timeout target
  | bind c target => exact sound_bind h c target
  | publish c application stream tracks => exact sound_publish h c application stream tracks
  | ingest c packet => exact (wiring_ingest p c packet).symm ▸ h
  | touch c => exact (wiring_touch p c).symm ▸ h
  | setTimeout c timeout => exact (wiring_setTimeout p c timeout).symm ▸ h
  | deleteChannel c => exact sound_deleteChannel h c
  | evict A => exact sound_evict h A
  | deleteApplication name => exact sound_deleteApplication h name
  | sweep order now => exact sound_sweepIn h order now
  | clear => exact sound_clear h
  | shutdown => exact sound_shutdown h
  | setHook hook => exact h
  | start =>
    show (p.start).wiring.Sound
    unfold start
    split
    · exact h
    · exact sound_tick h _
  | sleep ms => exact sound_sleep h ms
  | jump ms => exact sound_jump h ms

/-- A provider without channels, streams and applications. -/
lemma sound_new (name : String) (settings : Settings) :
    (wiring { name, settings }).Sound := by
  have hidle : ∀ sid c b, ¬(wiring { name, settings }).Publishes sid c b := by
    intro sid c b hp
    cases hp
  refine ⟨⟨?_, ?_, ?_, ?_, ?_, ?_⟩, ?_, ?_⟩
  · exact fun hp => absurd hp (hidle _ _ _)
  · intro A name c st he
    cases he
  · intro st key hst
    cases hst
  · exact fun _ _ => rfl
  · exact fun hp => absurd hp (hidle _ _ _)
  · exact fun hp => absurd hp (hidle _ _ _)
  · intro c sid hc
    cases hc
  · exact fun hp => absurd hp (hidle _ _ _)

/-- Whatever is done to a provider, its wiring is sound. -/
lemma sound_run (h : p.wiring.Sound) (ops : List Op) : (p.run ops).wiring.Sound :=
  sound_foldl (fun op hq => sound_apply hq op) ops h

/-! ## Who publishes what -/

/-- A channel of the table publishes a stream into an application. -/
def Carries (p : Provider) (c : ChannelId) (b : Binding) : Prop :=
  ∃ sid s, p.find? c = some (sid, s) ∧ s.binding = some b

section

variable {A A' : ApplicationId} {st st' : StreamId} {c' : ChannelId} {b b' : Binding}

/-- A channel publishes one stream at most. -/
lemma Carries.binding_unique (hc : p.Carries c b) (hc' : p.Carries c b') : b = b' := by
  obtain ⟨sid, s, hfind, hb⟩ := hc
  obtain ⟨sid', s', hfind', hb'⟩ := hc'
  cases hfind.symm.trans hfind'
  exact Option.some.inj (hb.symm.trans hb')

/-- The channels of the table that publish are the sessions that publish. -/
lemma carries_iff (h : p.wiring.Sound) :
    p.Carries c b ↔ ∃ sid, p.wiring.Publishes sid c b := by
  constructor
  · rintro ⟨sid, s, hfind, hb⟩
    obtain ⟨hc, hs⟩ := find?_eq_some_iff.1 hfind
    obtain ⟨b', hsession⟩ := h.session_of_channel hc
    obtain ⟨s', hs', hchannel, -⟩ := session?_eq_some_iff.1 hsession
    cases hs.symm.trans hs'
    exact ⟨sid, publishes_iff.2 ⟨s, hs, hchannel, hb⟩⟩
  · rintro ⟨sid, hp⟩
    obtain ⟨s, hs, -, hb⟩ := publishes_iff.1 hp
    exact ⟨sid, s, find?_eq_some_iff.2 ⟨h.channel_of_publishes hp, hs⟩, hb⟩

/-- A stream is published by one channel at most. -/
lemma Carries.channel_unique (h : p.wiring.Sound) (hc : p.Carries c ⟨A, st⟩)
    (hc' : p.Carries c' ⟨A', st⟩) : c = c' := by
  obtain ⟨sid, hp⟩ := (carries_iff h).1 hc
  obtain ⟨sid', hp'⟩ := (carries_iff h).1 hc'
  obtain rfl := h.eq_of_stream hp hp'
  cases hp.symm.trans hp'
  rfl

/-- A stream that a channel publishes is open, and its application has it under its name. -/
lemma Carries.stream (h : p.wiring.Sound) (hc : p.Carries c ⟨A, st⟩) :
    ∃ x, p.streams.get? st = some x ∧ x.isClosed = false ∧
      (p.application A).streams.get? x.key.name = some ⟨c, st⟩ := by
  obtain ⟨sid, hp⟩ := (carries_iff h).1 hc
  obtain ⟨key, hst, he⟩ := h.entry_of_publishes hp
  obtain ⟨x, hx, rfl, hopen⟩ := stream?_eq_some_iff.1 hst
  exact ⟨x, hx, hopen, he⟩

/-- An application has the streams that are published into it, under their names. -/
lemma entry_iff (h : p.wiring.Sound) {n : String} :
    (p.application A).streams.get? n = some ⟨c, st⟩ ↔
      p.Carries c ⟨A, st⟩ ∧ ∃ x, p.streams.get? st = some x ∧ x.key.name = n := by
  constructor
  · intro he
    obtain ⟨sid, key, hp, hst, hn⟩ := h.publishes_of_entry he
    obtain ⟨x, hx, rfl, -⟩ := stream?_eq_some_iff.1 hst
    exact ⟨(carries_iff h).2 ⟨sid, hp⟩, x, hx, hn⟩
  · rintro ⟨hc, x, hx, rfl⟩
    obtain ⟨x', hx', -, he⟩ := hc.stream h
    cases hx.symm.trans hx'
    exact he

/-- A stream is open exactly if a channel publishes it. -/
lemma isClosed_iff (h : p.wiring.Sound) {x : Stream} (hx : p.streams.get? st = some x) :
    x.isClosed = false ↔ ∃ c A, p.Carries c ⟨A, st⟩ := by
  constructor
  · intro hopen
    obtain ⟨sid, c, A, hp⟩ := h.publishes_of_open (stream?_eq_some_iff.2 ⟨x, hx, rfl, hopen⟩)
    exact ⟨c, A, (carries_iff h).2 ⟨sid, hp⟩⟩
  · rintro ⟨c, A, hc⟩
    obtain ⟨x', hx', hopen, -⟩ := hc.stream h
    cases hx.symm.trans hx'
    exact hopen

/-- A closed application has no streams, and nothing is published into it. -/
lemma closed_application (h : p.wiring.Sound) (hclosed : (p.application A).closed = true) :
    (p.application A).streams = ∅ ∧ ∀ c st, ¬p.Carries c ⟨A, st⟩ := by
  have hempty := h.entry_of_shut hclosed
  refine ⟨Table.ext_get? hempty, fun c st hc => ?_⟩
  obtain ⟨x, -, -, he⟩ := hc.stream h
  cases (hempty x.key.name).symm.trans he

end

/-- **In every state, the applications have exactly the streams that the channels of the table
publish into them.** An application has a stream of a channel under a name exactly if the channel is
bound to the application and the stream, and the stream has that name. So no channel publishes two
streams, and no two channels publish one stream or under one name of one application. A closed
application has no streams, and no channel is bound to it. A stream that was attached at any time
is open exactly as long as a channel of the table publishes it. The table holds every channel under
its own number, and a session that is not in the table is bound to nothing. Applications, streams
and sessions are objects here, so one that is made later under the same name is another one.

**Proof sketch.** The wiring is sound in every state, since every operation keeps it so
(`sound_apply`): each operation is a sequence of the changes of a wiring, and between the changes at
least the sessions and the applications agree (`Wiring.Matched`). -/
theorem run_bindings (name : String) (settings : Settings) (ops : List Op) :
    let p := run { name, settings } ops
    (∀ A n c st, (p.application A).streams.get? n = some ⟨c, st⟩ ↔
      p.Carries c ⟨A, st⟩ ∧ ∃ x, p.streams.get? st = some x ∧ x.key.name = n) ∧
    (∀ c b b', p.Carries c b → p.Carries c b' → b = b') ∧
    (∀ c c' A A' st, p.Carries c ⟨A, st⟩ → p.Carries c' ⟨A', st⟩ → c = c') ∧
    (∀ A c c' st st' x x', p.Carries c ⟨A, st⟩ → p.Carries c' ⟨A, st'⟩ →
      p.streams.get? st = some x → p.streams.get? st' = some x' → x.key.name = x'.key.name →
      c = c') ∧
    (∀ A, (p.application A).closed = true →
      (p.application A).streams = ∅ ∧ ∀ c st, ¬p.Carries c ⟨A, st⟩) ∧
    (∀ st x, p.streams.get? st = some x →
      (x.isClosed = false ↔ ∃ c A, p.Carries c ⟨A, st⟩)) ∧
    (∀ c sid, p.channels.get? c = some sid → ∃ s, p.sessions.get? sid = some s ∧ s.channel = c) ∧
    (∀ sid s, p.sessions.get? sid = some s → s.binding ≠ none →
      p.channels.get? s.channel = some sid) := by
  intro p
  have h : p.wiring.Sound := sound_run (sound_new name settings) ops
  refine ⟨fun A n c st => entry_iff h, fun c b b' hc hc' => hc.binding_unique hc',
    fun c c' A A' st hc hc' => hc.channel_unique h hc', ?_, fun A hA => closed_application h hA,
    fun st x hx => isClosed_iff h hx, ?_, ?_⟩
  · intro A c c' st st' x x' hc hc' hx hx' hname
    have he := (entry_iff h).2 ⟨hc, x, hx, rfl⟩
    have he' := (entry_iff h).2 ⟨hc', x', hx', hname.symm⟩
    cases he.symm.trans he'
    rfl
  · intro c sid hc
    obtain ⟨b, hsession⟩ := h.session_of_channel hc
    obtain ⟨s, hs, hchannel, -⟩ := session?_eq_some_iff.1 hsession
    exact ⟨s, hs, hchannel⟩
  · intro sid s hs hb
    obtain ⟨b, hb⟩ := Option.ne_none_iff_exists'.1 hb
    exact h.channel_of_publishes (publishes_iff.2 ⟨s, hs, rfl, hb⟩)

/-- Of two channels one falls silent and is removed in a sweep; the other one still publishes. -/
theorem run_bindings_after_sweep :
    let ops : List Op := [.createApplication "live", .createChannel 7 none (some ⟨0, "cam", []⟩),
      .createChannel 8 (some 0) none, .bind 8 ⟨0, "cam", []⟩, .bind 8 ⟨0, "mic", []⟩,
      .sweep [0, 1] 4000]
    (run { name := "media" } ops).Carries 8 ⟨0, 1⟩ ∧
      ((run { name := "media" } ops).application 0).streams.get? "cam" = none := by
  intro ops
  have hmic : ((run { name := "media" } ops).application 0).streams.get? "mic" = some ⟨8, 1⟩ := by
    decide
  exact ⟨(((run_bindings "media" {} ops).1 0 "mic" 8 1).1 hmic).1, by decide⟩

end LiveMedia.Provider
