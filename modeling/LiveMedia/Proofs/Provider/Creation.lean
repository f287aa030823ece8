import LiveMedia.Proofs.Provider.Rewiring

set_option autoImplicit false

/-!
# Creating channels and publishing streams

A channel that is created or bound publishes a new stream under a name that is free. If its
application refuses the stream, nothing is left of it.

## Main results

* `LiveMedia.Provider.sound_enroll`, `LiveMedia.Provider.sound_bind` — the wiring stays sound,
  whether the channel is refused or not.
-/

namespace LiveMedia.Provider

variable {p : Provider} {A : ApplicationId} {c : ChannelId} {sid : SessionId}

/-! ## A new stream -/

/-- A new stream is attached and kept, or refused without a trace. -/
lemma outcome_attachNew (c : ChannelId) (A : ApplicationId) (s : Stream) (p : Provider) :
    outcome (attachNew c A s) p =
      match (p.application A).attach c p.streams.size s.key with
      | .ok a =>
        (.ok ⟨A, p.streams.size⟩,
          { p.modifyApplication A (fun _ => a) with streams := p.streams.add s })
      | .error e => (.error e, p) := by
  simp only [attachNew, attachStream, outcome_bind, outcome_get, outcome_liftM]
  cases (p.application A).attach c p.streams.size s.key <;> rfl

/-- A new stream is made without a change of the wiring. -/
lemma outcome_makeStream (target : Publication) (p : Provider) :
    ∃ events, outcome (makeStream target) p =
      (.ok (Stream.create ((p.application target.application).streamKey target.stream)
        target.tracks).1, p.report events) :=
  ⟨_, rfl⟩

/-- No session publishes over a channel that is not in the table. -/
lemma not_publishes_of_channel (h : p.wiring.Sound) (hc : p.channels.get? c = none) :
    ∀ sid b, ¬p.wiring.Publishes sid c b := by
  intro sid b hp
  cases hc.symm.trans (h.channel_of_publishes hp)

/-- No session that is not there publishes. -/
lemma not_publishes_size (p : Provider) : ∀ c b, ¬p.wiring.Publishes p.sessions.size c b := by
  intro c b hp
  obtain ⟨s, hs, -⟩ := publishes_iff.1 hp
  cases p.sessions.get?_size.symm.trans hs

/-- The number that a new stream gets is free. -/
lemma stream?_size (p : Provider) : p.wiring.stream? p.streams.size = none := by
  show (p.streams.get? _).map _ = none
  rw [Store.get?_size, Option.map_none]

/-! ## Creating a channel -/

/-- A new session is added under a number that is free in the table. -/
lemma sound_addSession (s : Session)
    (hmatched : (p.wiring.setSession p.sessions.size s.channel s.binding).Matched)
    (hfree : p.channels.get? s.channel = none)
    (hsession : ∀ {c sid}, p.channels.get? c = some sid → ∃ b, p.wiring.session? sid = some (c, b))
    (hchannel : ∀ {sid c b}, p.wiring.Publishes sid c b → p.channels.get? c = some sid) :
    ({ p with
      sessions := p.sessions.add s
      channels := p.channels.insert s.channel p.sessions.size } : Provider).wiring.Sound := by
  rw [wiring_addSession]
  refine ⟨hmatched.withChannels _, ?_, ?_⟩
  · intro c sid hc
    by_cases hnew : c = s.channel
    · obtain rfl := Option.some.inj ((if_pos hnew).symm.trans hc)
      exact ⟨s.binding, (if_pos rfl).trans (by rw [hnew])⟩
    · obtain ⟨b, hb⟩ := hsession ((if_neg hnew).symm.trans hc)
      have hne : sid ≠ p.sessions.size := by
        rintro rfl
        obtain ⟨s', hs', -⟩ := session?_eq_some_iff.1 hb
        cases p.sessions.get?_size.symm.trans hs'
      exact ⟨b, (if_neg hne).trans hb⟩
  · intro sid c b hp
    rcases Wiring.publishes_setSession.1 hp with ⟨rfl, rfl, -⟩ | ⟨-, hold⟩
    · exact if_pos rfl
    · have hne : c ≠ s.channel := by
        rintro rfl
        cases hfree.symm.trans (hchannel hold)
      exact (if_neg hne).trans (hchannel hold)

/-- **A channel is created, with or without a stream, or refused.** -/
lemma sound_enroll (h : p.wiring.Sound) (c : ChannelId) (past : Past) (timeout : Option Nat)
    (stream : Option (ApplicationId × Stream)) (hopen : ∀ x ∈ stream, x.2.isClosed = false) :
    (outcome (enroll c past timeout stream) p).2.wiring.Sound := by
  by_cases hc : p.channels.contains c = true
  · simp only [enroll, outcome_bind, outcome_get, hc, if_true, outcome_throw]
    exact h
  have hfree : p.channels.get? c = none := by simpa [Table.contains] using hc
  cases stream with
  | none =>
    simp only [enroll, outcome_bind, outcome_get, hc, Bool.false_eq_true, if_false, outcome_pure,
      Option.mapM_none, outcome_set]
    exact sound_addSession (p.newSession c past timeout none)
      (h.toMatched.idle (not_publishes_size p)) hfree h.session_of_channel h.channel_of_publishes
  | some x =>
    obtain ⟨A, s⟩ := x
    simp only [enroll, outcome_bind, outcome_get, hc, Bool.false_eq_true, if_false, outcome_pure,
      Option.mapM_some, outcome_set, outcome_map, outcome_attachNew]
    cases ha : (p.application A).attach c p.streams.size s.key with
    | error e => exact h
    | ok a =>
      obtain ⟨hshut, hname, -⟩ := Application.attach_eq_ok_iff.1 ha
      -- the stream is attached before there is a session for it
      let q : Provider := { p.modifyApplication A fun _ => a with streams := p.streams.add s }
      have hq : q.wiring = p.wiring.attach c A p.streams.size s.key :=
        wiring_attach ha (hopen _ rfl)
      refine sound_addSession (p := q) (p.newSession c past timeout (some ⟨A, p.streams.size⟩)) ?_
        hfree h.session_of_channel h.channel_of_publishes
      rw [hq]
      exact h.toMatched.publish hshut hname (stream?_size p) (not_publishes_size p)
        (not_publishes_of_channel h hfree)

/-- A channel is created, and its stream is made for it. -/
lemma sound_createChannel (h : p.wiring.Sound) (c : ChannelId) (timeout : Option Nat)
    (target : Option Publication) :
    (outcome (createChannel c timeout target) p).2.wiring.Sound := by
  unfold createChannel
  rw [outcome_bind]
  cases target with
  | none => exact sound_enroll h c (.ago 0) timeout none (by simp)
  | some target =>
    obtain ⟨events, hmake⟩ := outcome_makeStream target p
    simp only [Option.mapM_some, outcome_map, outcome_bind, hmake, outcome_pure, Except.map]
    refine sound_enroll (p := p.report events) h c (.ago 0) timeout (some _) ?_
    intro x hx
    cases hx
    exact Stream.isClosed_create _ _

/-! ## Binding a channel -/

/-- A channel that is there has a session. -/
lemma outcome_find (c : ChannelId) (p : Provider) :
    outcome (find c) p =
      match p.find? c with
      | some found => (.ok found, p)
      | none => (.error (.unknownChannel c), p) := by
  unfold find
  rw [outcome_bind, outcome_get]
  dsimp only
  cases p.find? c <;> rfl

/-- A channel that is there is in the table, with a session of its own. -/
lemma find?_eq_some_iff {s : Session} : p.find? c = some (sid, s) ↔
    p.channels.get? c = some sid ∧ p.sessions.get? sid = some s := by
  simp only [find?, Option.bind_eq_bind, Option.bind_eq_some_iff, Option.pure_def,
    Option.some_inj, Prod.mk.injEq]
  constructor
  · rintro ⟨sid', hc, s', hs, rfl, rfl⟩
    exact ⟨hc, hs⟩
  · rintro ⟨hc, hs⟩
    exact ⟨sid, hc, s, hs, rfl, rfl⟩

/-- A session whose stream has no key publishes none: streams do not vanish. -/
lemma binding_of_publishedKey? {s : Session} (h : p.wiring.Sound)
    (hs : p.sessions.get? sid = some s) (hkey : p.publishedKey? s = none) : s.binding = none := by
  cases hb : s.binding with
  | none => rfl
  | some b =>
    have hp : p.wiring.Publishes sid s.channel b := publishes_iff.2 ⟨s, hs, rfl, hb⟩
    obtain ⟨key, hstream, -⟩ := h.entry_of_publishes hp
    obtain ⟨x, hx, -⟩ := stream?_eq_some_iff.1 hstream
    simp [publishedKey?, publishedStream?, hb, hx] at hkey

/-- A channel of the table that publishes nothing publishes a new stream. -/
lemma sound_setBinding {s : Session} {x : Stream} {a : Application} (h : p.wiring.Sound)
    (hc : p.channels.get? c = some sid) (hs : p.sessions.get? sid = some s)
    (hb : s.binding = none) (hopen : x.isClosed = false)
    (ha : (p.application A).attach c p.streams.size x.key = .ok a) :
    (({ p.modifyApplication A fun _ => a with streams := p.streams.add x } : Provider).modifySession
      sid fun s => { s with binding := some ⟨A, p.streams.size⟩ }).wiring.Sound := by
  obtain ⟨b, hsession⟩ := h.session_of_channel hc
  have hs' : p.wiring.session? sid = some (s.channel, none) :=
    session?_eq_some_iff.2 ⟨s, hs, rfl, hb⟩
  cases hsession.symm.trans hs'
  obtain ⟨hshut, hname, -⟩ := Application.attach_eq_ok_iff.1 ha
  let q : Provider := { p.modifyApplication A fun _ => a with streams := p.streams.add x }
  have hq : q.wiring = p.wiring.attach s.channel A p.streams.size x.key := wiring_attach ha hopen
  have hidle : ∀ c b, ¬p.wiring.Publishes sid c b := by
    intro c b hp
    cases hs'.symm.trans hp
  have hchannel : ∀ sid b, ¬p.wiring.Publishes sid s.channel b := by
    intro sid' b hp
    cases hc.symm.trans (h.channel_of_publishes hp)
    exact hidle _ _ hp
  rw [wiring_setSession (p := q) hs rfl, hq]
  refine ⟨h.toMatched.publish hshut hname (stream?_size p) hidle hchannel, ?_, ?_⟩
  · intro c' sid' hc'
    obtain ⟨b', hb'⟩ := h.session_of_channel hc'
    by_cases hsid : sid' = sid
    · subst hsid
      cases hs'.symm.trans hb'
      exact ⟨_, if_pos rfl⟩
    · exact ⟨b', (if_neg hsid).trans hb'⟩
  · intro sid' c' b' hp
    rcases Wiring.publishes_publish.1 hp with ⟨rfl, rfl, -⟩ | ⟨-, hold⟩
    · exact hc
    · exact h.channel_of_publishes hold

/-- **A channel that publishes nothing is bound to a new stream, or refused.** -/
lemma sound_bind (h : p.wiring.Sound) (c : ChannelId) (target : Publication) :
    (outcome (bind c target) p).2.wiring.Sound := by
  unfold bind
  rw [outcome_bind, outcome_find]
  cases hfind : p.find? c with
  | none => exact h
  | some found =>
    obtain ⟨sid, s⟩ := found
    obtain ⟨hc, hs⟩ := find?_eq_some_iff.1 hfind
    simp only [outcome_bind, outcome_get]
    cases hkey : p.publishedKey? s with
    | some key => exact h
    | none =>
      obtain ⟨events, hmake⟩ := outcome_makeStream target p
      simp only [outcome_bind, hmake, outcome_attachNew]
      cases ha : ((p.report events).application target.application).attach c
        (p.report events).streams.size _ with
      | error e => exact h
      | ok a =>
        refine sound_setBinding (p := p.report events) h hc hs ?_ (Stream.isClosed_create _ _) ha
        exact binding_of_publishedKey? h hs hkey

/-- A channel is bound to a stream of an application that is found by its name. -/
lemma sound_publish (h : p.wiring.Sound) (c : ChannelId) (application stream : String)
    (tracks : List TrackInfo) :
    (outcome (publish c application stream tracks) p).2.wiring.Sound := by
  unfold publish
  rw [outcome_bind, outcome_get]
  dsimp only
  split
  · exact h
  · exact sound_bind h c _

end LiveMedia.Provider
