import LiveMedia.Proofs.Provider.Delivery

set_option autoImplicit false

/-!
# Signs of life

The reaper judges a session by its last sign of life and the silence it is allowed. Most of what is
done to a provider leaves both as they are, together with the clock, and brings no session back into
the table; here this is said of each operation, with the sessions that it does not leave alone.

## Main definitions

* `LiveMedia.Life`, `LiveMedia.Provider.life?` — what the reaper judges a session by.
* `LiveMedia.Provider.Alike` — the provider differs in nothing that the reaper looks at.
* `LiveMedia.Provider.Spares` — certain sessions keep their life, and none of them comes back.

## Main results

* `LiveMedia.Provider.Enrolls.spares` — a new channel spares all sessions that are there.
* `LiveMedia.Provider.Receives.spares` — a packet spares all sessions but the one that accepts it.
* `LiveMedia.Provider.spares_evict`, `LiveMedia.Provider.spares_clear` — so do removals.
-/

namespace LiveMedia

/-- What the reaper judges a session by. -/
structure Life where
  channel : ChannelId
  lastReceived : Time
  timeout : Nat
  deriving DecidableEq, Repr

/-- The channel has been silent for longer than allowed. -/
def Life.isExpired (l : Life) (now : Time) : Bool :=
  decide (0 < l.timeout) && decide (l.timeout < now - l.lastReceived)

lemma Life.isExpired_iff {l : Life} {now : Time} :
    l.isExpired now = true ↔ 0 < l.timeout ∧ l.lastReceived + l.timeout < now := by
  rw [isExpired, Bool.and_eq_true, decide_eq_true_iff, decide_eq_true_iff]
  exact and_congr_right fun _ => Nat.lt_sub_iff_add_lt'

/-- What the reaper judges the session by. -/
def Session.life (s : Session) : Life :=
  ⟨s.channel, s.lastReceived, s.timeout⟩

namespace Provider

/-- What the reaper judges a session by. -/
def life? (p : Provider) (sid : SessionId) : Option Life :=
  (p.sessions.get? sid).map Session.life

variable {p q r : Provider} {sid id : SessionId} {c : ChannelId} {l : Life} {s : Session}
  {K : SessionId → Prop}

lemma life?_eq_some_iff : p.life? sid = some l ↔ ∃ s, p.sessions.get? sid = some s ∧ s.life = l :=
  Option.map_eq_some_iff

/-- A session is in the table if the table has it under the number of its channel. -/
lemma isLive_iff :
    p.isLive sid = true ↔ ∃ l, p.life? sid = some l ∧ p.channels.get? l.channel = some sid := by
  unfold isLive life?
  cases p.sessions.get? sid with
  | none => simp
  | some s => simp [Session.life]

lemma isLive_iff_of_life? (h : p.life? sid = some l) :
    p.isLive sid = true ↔ p.channels.get? l.channel = some sid := by
  rw [isLive_iff, h]
  simp

/-! ## What is left alone -/

/-- The two differ in nothing that the reaper looks at. -/
structure Alike (p q : Provider) : Prop where
  now : q.now = p.now
  due : q.due = p.due
  settings : q.settings = p.settings
  hook : q.hook = p.hook
  sessions : q.sessions = p.sessions
  channels : q.channels = p.channels

lemma Alike.refl (p : Provider) : Alike p p :=
  ⟨rfl, rfl, rfl, rfl, rfl, rfl⟩

lemma Alike.trans (h : Alike p q) (h' : Alike q r) : Alike p r where
  now := h'.now.trans h.now
  due := h'.due.trans h.due
  settings := h'.settings.trans h.settings
  hook := h'.hook.trans h.hook
  sessions := h'.sessions.trans h.sessions
  channels := h'.channels.trans h.channels

/-- The clock stands still, the sessions in `K` keep what the reaper judges them by, and none of
them is brought back into the table. -/
structure Spares (K : SessionId → Prop) (p q : Provider) : Prop where
  now : q.now = p.now
  due : q.due = p.due
  settings : q.settings = p.settings
  hook : q.hook = p.hook
  life : ∀ sid, K sid → q.life? sid = p.life? sid
  live : ∀ sid, K sid → q.isLive sid = true → p.isLive sid = true

namespace Spares

lemma refl (K : SessionId → Prop) (p : Provider) : Spares K p p :=
  ⟨rfl, rfl, rfl, rfl, fun _ _ => rfl, fun _ _ h => h⟩

lemma trans (h : Spares K p q) (h' : Spares K q r) : Spares K p r where
  now := h'.now.trans h.now
  due := h'.due.trans h.due
  settings := h'.settings.trans h.settings
  hook := h'.hook.trans h.hook
  life sid hK := (h'.life sid hK).trans (h.life sid hK)
  live sid hK hlive := h.live sid hK (h'.live sid hK hlive)

lemma foldl {α : Type} {f : Provider → α → Provider} (hf : ∀ q x, Spares K q (f q x))
    (xs : List α) (p : Provider) : Spares K p (xs.foldl f p) := by
  induction xs generalizing p with
  | nil => exact .refl K p
  | cons x xs ih => exact (hf p x).trans (ih (f p x))

end Spares

lemma Alike.spares (h : Alike p q) (K : SessionId → Prop) : Spares K p q where
  now := h.now
  due := h.due
  settings := h.settings
  hook := h.hook
  life sid _ := by rw [life?, life?, h.sessions]
  live sid _ hlive := by rwa [isLive, h.sessions, h.channels] at hlive

/-! ## Parts of operations -/

lemma alike_report (p : Provider) (events : List Warning) : Alike p (p.report events) :=
  ⟨rfl, rfl, rfl, rfl, rfl, rfl⟩

lemma alike_count (p : Provider) (event : TableCounters → TableCounters) :
    Alike p (p.count event) :=
  ⟨rfl, rfl, rfl, rfl, rfl, rfl⟩

lemma alike_modifyStream (p : Provider) (st : StreamId) (f : Stream → Stream) :
    Alike p (p.modifyStream st f) :=
  ⟨rfl, rfl, rfl, rfl, rfl, rfl⟩

lemma alike_modifyApplication (p : Provider) (A : ApplicationId)
    (f : Application → Application) : Alike p (p.modifyApplication A f) :=
  ⟨rfl, rfl, rfl, rfl, rfl, rfl⟩

lemma alike_dropUnknown (p : Provider) (c : ChannelId) : Alike p (p.dropUnknown c) := by
  unfold dropUnknown
  dsimp only
  split
  · exact (alike_count p _).trans (alike_report _ _)
  · exact alike_count p _

/-- A session changes that is not to be spared, or only in what the reaper does not look at. -/
lemma spares_modifySession (p : Provider) (id : SessionId) {f : Session → Session}
    (hf : K id → ∀ s, p.sessions.get? id = some s → (f s).life = s.life) :
    Spares K p (p.modifySession id f) := by
  have hlife (sid : SessionId) (hK : K sid) : (p.modifySession id f).life? sid = p.life? sid := by
    show ((p.sessions.modify id f).get? sid).map Session.life = (p.sessions.get? sid).map _
    rw [Store.get?_modify]
    split
    · next heq =>
      subst heq
      cases hs : p.sessions.get? sid with
      | none => rfl
      | some s => exact congrArg some (hf hK s hs)
    · rfl
  refine ⟨rfl, rfl, rfl, rfl, hlife, fun sid hK hlive => ?_⟩
  rw [isLive_iff, hlife sid hK] at hlive
  exact isLive_iff.2 hlive

/-- Sessions are taken out of the table. -/
lemma spares_channels (p : Provider) (t : Table ChannelId SessionId)
    (h : ∀ c sid, t.get? c = some sid → p.channels.get? c = some sid) :
    Spares K p { p with channels := t } := by
  refine ⟨rfl, rfl, rfl, rfl, fun _ _ => rfl, fun sid _ hlive => ?_⟩
  obtain ⟨l, hl, hchannel⟩ := isLive_iff.1 hlive
  exact isLive_iff.2 ⟨l, hl, h _ _ hchannel⟩

lemma spares_erase (p : Provider) (c : ChannelId) :
    Spares K p { p with channels := p.channels.erase c } := by
  apply spares_channels
  intro c' sid hsid
  rw [Table.get?_erase] at hsid
  split at hsid
  · cases hsid
  · exact hsid

lemma spares_filter (p : Provider) (f : ChannelId → SessionId → Bool) :
    Spares K p { p with channels := p.channels.filter f } := by
  apply spares_channels
  intro c sid hsid
  rw [Table.get?_filter] at hsid
  exact (Option.filter_eq_some_iff.1 hsid).1

/-! ## Removals -/

/-- A session that is let go keeps its life. -/
lemma spares_release (p : Provider) (id : SessionId) : Spares K p (p.release id) := by
  unfold release
  split
  · exact .refl K p
  · next session _ =>
    split
    · exact .refl K p
    · have hidle : Spares K p (p.modifySession id fun s => { s with binding := none }) :=
        spares_modifySession p id fun _ _ _ => rfl
      refine hidle.trans (Alike.spares ?_ K)
      exact (alike_modifyApplication _ _ _).trans (alike_modifyStream _ _ _)

lemma spares_releaseDeleted (p : Provider) (id : SessionId) : Spares K p (p.releaseDeleted id) :=
  (spares_release p id).trans ((alike_count _ _).spares K)

lemma spares_deleteChannel (p : Provider) (c : ChannelId) :
    Spares K p (p.deleteChannel c).2 := by
  unfold deleteChannel
  split
  · exact .refl K p
  · exact (spares_erase p c).trans (spares_releaseDeleted _ _)

lemma alike_closeApplication (p : Provider) (A : ApplicationId) :
    Alike p (p.closeApplication A) := by
  have hfold (streams : List StreamId) (q : Provider) :
      Alike q (streams.foldl (fun p st => p.modifyStream st Stream.close) q) := by
    induction streams generalizing q with
    | nil => exact .refl q
    | cons st streams ih => exact (alike_modifyStream q st _).trans (ih _)
  exact (alike_modifyApplication p A _).trans (hfold _ _)

/-- The channels of an application are removed with it. -/
lemma spares_evict (p : Provider) (A : ApplicationId) : Spares K p (p.evict A).2 := by
  let evicted := p.channels.filter fun _ id => p.publishesInto A id
  let kept : Provider :=
    { p with channels := p.channels.filter fun _ id => !p.publishesInto A id }
  let released := evicted.values.foldl releaseDeleted kept
  have hkept : Spares K p kept := spares_filter p _
  have hreleased : Spares K kept released := .foldl spares_releaseDeleted _ kept
  have hclosed : Alike released (p.evict A).2 :=
    (alike_closeApplication released A).trans
      (alike_count (released.closeApplication A) fun n => n.evict evicted.size)
  exact (hkept.trans hreleased).trans (hclosed.spares K)

lemma spares_deleteApplication (p : Provider) (name : String) :
    Spares K p (p.deleteApplication name).2 := by
  unfold deleteApplication
  split
  · exact .refl K p
  · next A _ =>
    have halike : Alike p { p with registry := p.registry.erase name } :=
      ⟨rfl, rfl, rfl, rfl, rfl, rfl⟩
    exact (halike.spares K).trans (spares_evict _ A)

lemma spares_clear (p : Provider) : Spares K p p.clear.2 := by
  refine (spares_channels p ∅ nofun).trans ?_
  exact Spares.foldl spares_releaseDeleted _ _

/-! ## Creation -/

/-- The provider with a new channel. -/
def withChannel (p : Provider) (s : Session) : Provider :=
  ({ p with
    sessions := p.sessions.add s
    channels := p.channels.insert s.channel p.sessions.size } : Provider).count TableCounters.create

/-- A new session has a number that no other one has. -/
lemma spares_withChannel (p : Provider) (s : Session)
    (hK : ∀ sid, K sid → p.life? sid ≠ none) : Spares K p (p.withChannel s) := by
  have hne (sid : SessionId) (h : K sid) : sid ≠ p.sessions.size := by
    rintro rfl
    refine hK _ h ?_
    rw [life?, Store.get?_size, Option.map_none]
  have hsession (sid : SessionId) (h : K sid) :
      (p.withChannel s).sessions.get? sid = p.sessions.get? sid := by
    show (p.sessions.add _).get? sid = _
    rw [Store.get?_add, if_neg (hne sid h)]
  have hlife (sid : SessionId) (h : K sid) :
      (p.withChannel s).life? sid = p.life? sid := by
    rw [life?, life?, hsession sid h]
  refine ⟨rfl, rfl, rfl, rfl, hlife, fun sid h hlive => ?_⟩
  obtain ⟨l, hl, hchannel⟩ := isLive_iff.1 hlive
  rw [hlife sid h] at hl
  have htable : (p.channels.insert s.channel p.sessions.size).get? l.channel = some sid := hchannel
  rw [Table.get?_insert] at htable
  split at htable
  · exact absurd (Option.some.inj htable).symm (hne sid h)
  · exact isLive_iff.2 ⟨l, hl, htable⟩

/-- A channel is refused, or taken in under the number that is next. -/
inductive Enrolls (p : Provider) (c : ChannelId) (past : Past) (timeout : Option Nat) :
    Except ProviderError SessionId × Provider → Prop
  | refused {q : Provider} (e : ProviderError) (hsame : Alike p q) :
    Enrolls p c past timeout (.error e, q)
  | created {q : Provider} (binding : Option Binding) (hsame : Alike p q) :
    Enrolls p c past timeout
      (.ok q.sessions.size, q.withChannel (q.newSession c past timeout binding))

lemma enrolls_enroll (p : Provider) (c : ChannelId) (past : Past) (timeout : Option Nat)
    (stream : Option (ApplicationId × Stream)) :
    Enrolls p c past timeout (outcome (enroll c past timeout stream) p) := by
  by_cases hc : p.channels.contains c = true
  · simp only [enroll, outcome_bind, outcome_get, hc, if_true, outcome_throw]
    exact .refused _ (Alike.refl p)
  cases stream with
  | none =>
    simp only [enroll, outcome_bind, outcome_get, hc, Bool.false_eq_true, if_false, outcome_pure,
      Option.mapM_none, outcome_set]
    exact .created none (Alike.refl p)
  | some x =>
    obtain ⟨A, s⟩ := x
    simp only [enroll, outcome_bind, outcome_get, hc, Bool.false_eq_true, if_false, outcome_pure,
      Option.mapM_some, outcome_set, outcome_map, outcome_attachNew]
    cases (p.application A).attach c p.streams.size s.key with
    | error e => exact .refused e (Alike.refl p)
    | ok a =>
      let attached : Provider :=
        { p.modifyApplication A fun _ => a with streams := p.streams.add s }
      have hsame : Alike p attached := ⟨rfl, rfl, rfl, rfl, rfl, rfl⟩
      exact .created (some ⟨A, p.streams.size⟩) hsame

/-- Making the stream for a channel beforehand changes nothing that the reaper looks at. -/
lemma enrolls_createChannel (p : Provider) (c : ChannelId) (timeout : Option Nat)
    (target : Option Publication) :
    Enrolls p c (.ago 0) timeout (outcome (createChannel c timeout target) p) := by
  unfold createChannel
  rw [outcome_bind]
  cases target with
  | none => exact enrolls_enroll p c (.ago 0) timeout none
  | some target =>
    obtain ⟨events, hmake⟩ := outcome_makeStream target p
    simp only [Option.mapM_some, outcome_map, outcome_bind, hmake, outcome_pure, Except.map]
    have hreport := alike_report p events
    have henroll := enrolls_enroll (p.report events) c (.ago 0) timeout
      (some (target.application, (Stream.create
        ((p.application target.application).streamKey target.stream) target.tracks).1))
    revert henroll
    generalize outcome (enroll c (.ago 0) timeout _) (p.report events) = r
    intro henroll
    cases henroll with
    | refused e hsame => exact .refused e (hreport.trans hsame)
    | created binding hsame => exact .created binding (hreport.trans hsame)

/-- A channel that is created, or refused, spares all sessions that are there. -/
lemma Enrolls.spares {past : Past} {timeout : Option Nat}
    {r : Except ProviderError SessionId × Provider} (h : Enrolls p c past timeout r) (hK : ∀ sid, K sid → p.life? sid ≠ none) : Spares K p r.2 := by
  cases h with
  | refused e hsame => exact hsame.spares K
  | created binding hsame =>
    refine (hsame.spares K).trans (spares_withChannel _ _ fun sid h => ?_)
    rw [(hsame.spares K).life sid h]
    exact hK sid h

/-- A channel that is taken in has given its last sign of life before. -/
lemma Enrolls.lastReceived {past : Past} {timeout : Option Nat}
    {r : Except ProviderError SessionId × Provider} (h : Enrolls p c past timeout r)
    (hr : r.1 = .ok sid) (hl : r.2.life? sid = some l) :
    l.lastReceived = p.now - past.silence := by
  cases h with
  | refused e hsame => cases hr
  | @created q binding hsame =>
    cases hr
    obtain ⟨s, hs, rfl⟩ := life?_eq_some_iff.1 hl
    have hadd : (q.sessions.add (q.newSession c past timeout binding)).get? q.sessions.size =
      some s := hs
    rw [Store.get?_add, if_pos rfl] at hadd
    cases hadd
    exact congrArg (· - past.silence) hsame.now

/-! ## Publishing -/

/-- A channel that publishes a new stream keeps its life. -/
lemma spares_bind (p : Provider) (c : ChannelId) (target : Publication) :
    Spares K p (outcome (bind c target) p).2 := by
  unfold bind
  rw [outcome_bind, outcome_find]
  cases p.find? c with
  | none => exact .refl K p
  | some found =>
    obtain ⟨id, session⟩ := found
    simp only [outcome_bind, outcome_get]
    cases p.publishedKey? session with
    | some key => exact .refl K p
    | none =>
      obtain ⟨events, hmake⟩ := outcome_makeStream target p
      simp only [outcome_bind, hmake, outcome_attachNew]
      cases ((p.report events).application target.application).attach c
        (p.report events).streams.size _ with
      | error e => exact (alike_report p events).spares K
      | ok a =>
        let s := (Stream.create ((p.application target.application).streamKey target.stream)
          target.tracks).1
        let attached : Provider := { (p.report events).modifyApplication target.application
          (fun _ => a) with streams := p.streams.add s }
        have hsame : Alike p attached := ⟨rfl, rfl, rfl, rfl, rfl, rfl⟩
        exact (hsame.spares K).trans (spares_modifySession attached id fun _ _ _ => rfl)

lemma spares_publish (p : Provider) (c : ChannelId) (application stream : String)
    (tracks : List TrackInfo) :
    Spares K p (outcome (publish c application stream tracks) p).2 := by
  unfold publish
  rw [outcome_bind, outcome_get]
  dsimp only
  split
  · exact .refl K p
  · exact spares_bind p c _

/-! ## Data and signs of life -/

lemma spares_reject (p : Provider) (id : SessionId) : Spares K p (p.reject id) :=
  spares_modifySession p id fun _ _ _ => rfl

lemma spares_markReceived (p : Provider) (h : ¬K id) : Spares K p (p.markReceived id) :=
  spares_modifySession p id fun hK => absurd hK h

lemma spares_accept (p : Provider) (size : Nat) (h : ¬K id) : Spares K p (p.accept id size) :=
  (spares_markReceived p h).trans (spares_modifySession _ id fun _ _ _ => rfl)

lemma lastReceived_markReceived (h : (p.markReceived sid).life? sid = some l) :
    l.lastReceived = p.now := by
  have hlife : ((p.sessions.modify sid fun s => { s with lastReceived := p.now }).get? sid).map
      Session.life = some l := h
  rw [Store.get?_modify, if_pos rfl, Option.map_map] at hlife
  obtain ⟨s, -, rfl⟩ := Option.map_eq_some_iff.1 hlife
  rfl

/-- A packet is refused, or the session of its channel accepts it. -/
inductive Receives (p : Provider) (c : ChannelId) : Except ProviderError Unit × Provider → Prop
  | refused {q : Provider} (e : ProviderError) (h : ∀ K, Spares K p q) : Receives p c (.error e, q)
  | accepted {q : Provider} {id : SessionId} (size : Nat) (hc : p.channels.get? c = some id)
      (hsame : Alike p q) : Receives p c (.ok (), q.accept id size)

lemma receives_ingest (p : Provider) (c : ChannelId) (packet : Packet) :
    Receives p c (outcome (ingest c packet) p) := by
  cases hfind : p.find? c with
  | none =>
    simp only [ingest, outcome_bind, outcome_get, hfind, outcome_set, outcome_throw]
    exact .refused _ (alike_dropUnknown p c).spares
  | some found =>
    obtain ⟨id, session⟩ := found
    cases hpublished : p.publishedStream? session with
    | none =>
      simp only [ingest, outcome_bind, outcome_get, hfind, hpublished, outcome_set, outcome_throw]
      exact .refused _ fun K => spares_reject p id
    | some published =>
      obtain ⟨st, stream⟩ := published
      rw [outcome_ingest hfind hpublished]
      have hdelivered := (alike_modifyStream p st fun _ => (stream.ingest packet).stream).trans
        (alike_report _ (stream.ingest packet).warnings)
      cases (stream.ingest packet).result with
      | ok u => exact .accepted packet.size (find?_eq_some_iff.1 hfind).1 hdelivered
      | error e => exact .refused _ fun K => (hdelivered.spares K).trans (spares_reject _ id)

/-- An accepted packet is a sign of life. -/
lemma Receives.lastReceived {r : Except ProviderError Unit × Provider} (h : Receives p c r)
    (hc : p.channels.get? c = some sid) (hok : r.1 = .ok ()) (hl : r.2.life? sid = some l) :
    l.lastReceived = p.now := by
  cases h with
  | refused e h => cases hok
  | @accepted q id size hid hsame =>
    cases hc.symm.trans hid
    have hcounted : Spares (fun _ => True) (q.markReceived sid) (q.accept sid size) :=
      spares_modifySession _ sid fun _ _ _ => rfl
    rw [hcounted.life sid trivial] at hl
    exact (lastReceived_markReceived hl).trans hsame.now

/-- **A packet spares all sessions but the one that accepts it.** One that is refused is no sign of
life. -/
lemma Receives.spares {r : Except ProviderError Unit × Provider} (h : Receives p c r)
    (hK : ∀ sid, K sid → ¬(p.channels.get? c = some sid ∧ r.1 = .ok ())) : Spares K p r.2 := by
  cases h with
  | refused e h => exact h K
  | accepted size hc hsame =>
    exact (hsame.spares K).trans (spares_accept _ size fun hid => hK _ hid ⟨hc, rfl⟩)

/-- A sign of life spares all other sessions. -/
lemma spares_touch (p : Provider) (c : ChannelId)
    (h : ∀ sid, K sid → p.channels.get? c ≠ some sid) : Spares K p (p.touch c).2 := by
  unfold touch
  split
  · next id hc => exact spares_markReceived p fun hK => h id hK hc
  · exact .refl K p

/-- Another timeout spares all other sessions, and the same one spares all. -/
lemma spares_setTimeout (p : Provider) (c : ChannelId) (timeout : Nat)
    (h : ∀ sid, K sid → p.channels.get? c = some sid →
      ∀ l ∈ p.life? sid, l.timeout = timeout) :
    Spares K p (outcome (setTimeout c timeout) p).2 := by
  unfold setTimeout
  rw [outcome_bind, outcome_find]
  cases hfind : p.find? c with
  | none => exact .refl K p
  | some found =>
    obtain ⟨id, session⟩ := found
    refine spares_modifySession p id fun hK s hs => ?_
    have htimeout := h id hK (find?_eq_some_iff.1 hfind).1 s.life (life?_eq_some_iff.2 ⟨s, hs, rfl⟩)
    rw [← htimeout]
    rfl

end Provider

end LiveMedia
