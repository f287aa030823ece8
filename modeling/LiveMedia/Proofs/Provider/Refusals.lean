import LiveMedia.Proofs.Provider.Delivery
import LiveMedia.Proofs.Table

set_option autoImplicit false

/-!
# Refused operations

An operation that a provider refuses leaves nothing behind but counts and reports. To create or bind
a channel takes several steps, of which a later one may be refused: a channel is in the table before
its application is asked for the stream, and a stream is attached before its channel is bound to it.
The way back from there undoes just what the operation has done, so that the steps come to the same
as the operation in one go.

## Main definitions

* `LiveMedia.Provider.enrollInSteps`, `LiveMedia.Provider.bindInSteps` — creation and binding step
  by step, with the way back.
* `LiveMedia.Provider.Call`, `LiveMedia.Provider.Call.perform` — the operations that may be refused.
* `LiveMedia.Provider.Untouched` — what every refusal leaves as it was.
* `LiveMedia.Provider.RolledBack` — what the refusal of everything but a packet leaves as it was.

## Main results

* `LiveMedia.Provider.outcome_enrollInSteps` — a channel that is refused is out of the table again.
* `LiveMedia.Provider.enroll_eq_enrollInSteps`, `LiveMedia.Provider.bind_eq_bindInSteps` — the steps
  come to the same as the operation in one go.
* `LiveMedia.Provider.refused_untouched` — whatever is refused leaves the provider as it was.
-/

namespace LiveMedia

/-! ## Packets that a stream refuses -/

/-- The stream has got nothing, though it may have been handed packets and failed to convert some:
its tracks with their queues, and whether it is closed, are as they were. -/
structure Stream.Unfed (s s' : Stream) : Prop where
  key : s'.key = s.key
  feed : s'.feed = s.feed
  audience : s'.audience = s.audience
  counters : ∃ m n, s'.counters = { s.counters with
    packetsIn := s.counters.packetsIn + m
    conversionErrors := s.counters.conversionErrors + n }

lemma Stream.Unfed.refl (s : Stream) : s.Unfed s :=
  ⟨rfl, rfl, rfl, 0, 0, rfl⟩

/-- A packet that a stream refuses is counted, and maybe as one that could not be converted. -/
lemma Stream.unfed_of_ingest {s : Stream} {packet : Packet} {e : StreamError}
    (h : (s.ingest packet).result = .error e) : s.Unfed (s.ingest packet).stream := by
  cases hn : s.normalizers.get? packet.track with
  | none =>
    simp only [ingest, hn]
    exact ⟨rfl, rfl, rfl, 1, 0, rfl⟩
  | some n =>
    rcases hrun : (Normalizer.normalize packet n).run with ⟨e' | _ | q, n'⟩ <;>
      simp only [ingest, hn, hrun] at h ⊢
    · cases e' with
      | missingConfig => cases h
      | truncated | invalid | unsupportedFormat | overflow => exact ⟨rfl, rfl, rfl, 1, 1, rfl⟩
    · cases h
    · -- the track has a normalizer and no queue
      unfold enqueue at h ⊢
      split at h
      · cases h
      · exact ⟨rfl, rfl, rfl, 1, 0, rfl⟩

namespace Provider

variable {p q : Provider} {c : ChannelId} {sid : SessionId} {e : ProviderError}

/-! ## Creation and binding step by step -/

/-- The provider with one more channel in its table. -/
def entered (p : Provider) (s : Session) : Provider :=
  { p with
    sessions := p.sessions.add s
    channels := p.channels.insert s.channel p.sessions.size }

/-- The table lets a channel go, if it holds this very session. -/
def removeIfSame (p : Provider) (sid : SessionId) (c : ChannelId) : Provider :=
  if p.channels.get? c = some sid then { p with channels := p.channels.erase c } else p

/-- Attaches the stream that a new channel is bound to, if any. If its application refuses, the
channel is taken out of the table. -/
def attachOrRemove (sid : SessionId) (c : ChannelId) : Option (Binding × StreamKey) → Step Unit
  | none => pure ()
  | some (b, key) =>
    tryCatch (attachStream b.application c b.stream key) fun e => do
      modify (·.removeIfSame sid c)
      throw e

/-- Takes in a channel that may be bound already, to any stream. It is in the table before its
application is asked for the stream. -/
def enrollInSteps (c : ChannelId) (past : Past) (timeout : Option Nat)
    (bound : Option (Binding × StreamKey)) : Step SessionId := do
  let p ← get
  if p.channels.contains c then
    throw (.duplicateChannel c)
  set (p.entered (p.newSession c past timeout (bound.map Prod.fst)))
  attachOrRemove p.sessions.size c bound
  modify (·.count TableCounters.create)
  pure p.sessions.size

/-- Binds a session, unless it is bound already. -/
def bindSession (sid : SessionId) (binding : Binding) : Step Unit := do
  let p ← get
  match (p.sessions.get? sid).bind p.publishedKey? with
  | some key => throw (.streamInUse key)
  | none => set (p.modifySession sid fun s => { s with binding := some binding })

/-- Binds a session to a stream that is attached for its channel. If it is bound by then, the stream
is detached again; if it has been removed by then, it is let go. -/
def bindOrDetach (sid : SessionId) (c : ChannelId) (b : Binding) : Step StreamId := do
  tryCatch (bindSession sid b) fun e => do
    modify fun p => (p.detachStream b.application c).2
    throw e
  if !(← get).isLive sid then
    modify (·.release sid)
    throw (.unknownChannel c)
  pure b.stream

/-- Lets a channel that publishes nothing publish a new stream. The stream is attached before the
channel is bound to it. -/
def bindInSteps (c : ChannelId) (target : Publication) : Step StreamId := do
  let (sid, session) ← find c
  if let some key := (← get).publishedKey? session then
    throw (.streamInUse key)
  let stream ← makeStream target
  let binding ← attachNew c target.application stream
  bindOrDetach sid c binding

/-! ## Creation -/

lemma get?_of_not_contains (h : ¬p.channels.contains c = true) : p.channels.get? c = none := by
  simpa [Table.contains] using h

lemma outcome_attachStream (A : ApplicationId) (c : ChannelId) (st : StreamId) (key : StreamKey)
    (p : Provider) :
    outcome (attachStream A c st key) p =
      match (p.application A).attach c st key with
      | .ok a => (.ok (), p.modifyApplication A fun _ => a)
      | .error e => (.error e, p) := by
  rw [attachStream, outcome_bind, outcome_get]
  dsimp only
  rw [outcome_bind, outcome_liftM]
  cases (p.application A).attach c st key <;> rfl

/-- The way back is taken if the application refuses. -/
lemma outcome_attachOrRemove (b : Binding) (key : StreamKey) (p : Provider) :
    outcome (attachOrRemove sid c (some (b, key))) p =
      match (p.application b.application).attach c b.stream key with
      | .ok a => (.ok (), p.modifyApplication b.application fun _ => a)
      | .error e => (.error e, p.removeIfSame sid c) := by
  rw [attachOrRemove, outcome_tryCatch, outcome_attachStream]
  cases (p.application b.application).attach c b.stream key <;> rfl

lemma application_entered (p : Provider) (s : Session) (A : ApplicationId) :
    (p.entered s).application A = p.application A := rfl

/-- A channel that has just entered the table leaves it again. -/
lemma removeIfSame_entered {s : Session} (h : p.channels.get? s.channel = none) :
    (p.entered s).removeIfSame p.sessions.size s.channel =
      { p with sessions := p.sessions.add s } := by
  have hsame : (p.entered s).channels.get? s.channel = some p.sessions.size := by
    show (p.channels.insert _ _).get? _ = _
    rw [Table.get?_insert, if_pos rfl]
  rw [removeIfSame, if_pos hsame]
  simp only [entered, Table.erase_insert, Table.erase_eq_self h]

/-- **A channel is taken in, or it is out of the table again.** If its application refuses the
stream that it is bound to, what is left is a session that the table does not hold. -/
theorem outcome_enrollInSteps (c : ChannelId) (past : Past) (timeout : Option Nat)
    (bound : Option (Binding × StreamKey)) (p : Provider) :
    outcome (enrollInSteps c past timeout bound) p =
      let s := p.newSession c past timeout (bound.map Prod.fst)
      if p.channels.contains c then (.error (.duplicateChannel c), p)
      else match bound with
        | none => (.ok p.sessions.size, (p.entered s).count TableCounters.create)
        | some (b, key) =>
          match (p.application b.application).attach c b.stream key with
          | .ok a =>
            (.ok p.sessions.size, ((p.entered s).modifyApplication b.application fun _ => a).count
              TableCounters.create)
          | .error e => (.error e, { p with sessions := p.sessions.add s }) := by
  dsimp only
  by_cases hc : p.channels.contains c = true
  · simp only [enrollInSteps, outcome_bind, outcome_get, hc, if_true, outcome_throw]
  have hfree := get?_of_not_contains hc
  simp only [enrollInSteps, outcome_bind, outcome_get, hc, Bool.false_eq_true, if_false,
    outcome_pure, outcome_set]
  rcases bound with _ | ⟨b, key⟩
  · rfl
  · simp only [outcome_attachOrRemove, application_entered, Option.map_some]
    cases (p.application b.application).attach c b.stream key with
    | ok a => rfl
    | error e =>
      have hremoved := removeIfSame_entered (s := p.newSession c past timeout (some b)) hfree
      exact congrArg (fun q => (Except.error e, q)) hremoved

/-- The provider once the stream is made that a channel is to be bound to. -/
def holding (p : Provider) (stream : Option (ApplicationId × Stream)) : Provider :=
  { p with streams := stream.elim p.streams fun x => p.streams.add x.2 }

/-- What a channel is bound to that comes with the stream that is made last. -/
def boundTo (p : Provider) (stream : Option (ApplicationId × Stream)) :
    Option (Binding × StreamKey) :=
  stream.map fun x => (⟨x.1, p.streams.size⟩, x.2.key)

/-- **A channel that comes with a new stream is taken in step by step**, and is refused by the steps
if it is refused in one go. -/
theorem enroll_eq_enrollInSteps (c : ChannelId) (past : Past) (timeout : Option Nat)
    (stream : Option (ApplicationId × Stream)) (p : Provider) :
    match outcome (enroll c past timeout stream) p with
    | (.ok id, q) =>
      outcome (enrollInSteps c past timeout (p.boundTo stream)) (p.holding stream) = (.ok id, q)
    | (.error e, q) =>
      q = p ∧ (outcome (enrollInSteps c past timeout (p.boundTo stream)) (p.holding stream)).1 =
        .error e := by
  rw [outcome_enrollInSteps]
  have hchannels : (p.holding stream).channels = p.channels := rfl
  rw [hchannels]
  by_cases hc : p.channels.contains c = true
  · simp only [enroll, outcome_bind, outcome_get, hc, if_true, outcome_throw, true_and]
  rcases stream with _ | ⟨A, s⟩
  · simp only [enroll, outcome_bind, outcome_get, hc, Bool.false_eq_true, if_false, outcome_pure,
      Option.mapM_none, outcome_set]
    rfl
  · simp only [enroll, outcome_bind, outcome_get, hc, Bool.false_eq_true, if_false, outcome_pure,
      Option.mapM_some, outcome_set, outcome_map, outcome_attachNew, boundTo, Option.map_some]
    have happlication : (p.holding (some (A, s))).application A = p.application A := rfl
    rw [happlication]
    cases (p.application A).attach c p.streams.size s.key with
    | error e => exact ⟨rfl, rfl⟩
    | ok a => rfl

/-! ## Binding -/

/-- A session of the table that is bound to nothing is bound. -/
lemma outcome_bindOrDetach {s : Session} (hc : p.channels.get? s.channel = some sid)
    (hs : p.sessions.get? sid = some s) (hidle : s.binding = none) (c : ChannelId) (b : Binding) :
    outcome (bindOrDetach sid c b) p =
      (.ok b.stream, p.modifySession sid fun s => { s with binding := some b }) := by
  let q := p.modifySession sid fun s => { s with binding := some b }
  have hkey : p.publishedKey? s = none := by simp [publishedKey?, publishedStream?, hidle]
  have hbind : outcome (bindSession sid b) p = (.ok (), q) := by
    rw [bindSession, outcome_bind, outcome_get]
    simp only [hs, Option.bind_some, hkey, outcome_set]
    rfl
  have hlive : q.isLive sid = true := by
    have hbound : q.sessions.get? sid = some { s with binding := some b } := by
      show (p.sessions.modify _ _).get? _ = _
      rw [Store.get?_modify, if_pos rfl, hs, Option.map_some]
    have htable : q.channels.get? s.channel = some sid := hc
    simp [isLive, hbound, htable]
  rw [bindOrDetach, outcome_bind, outcome_tryCatch, hbind]
  dsimp only
  rw [outcome_bind, outcome_get]
  simp only [hlive, Bool.not_true, Bool.false_eq_true, if_false, outcome_pure]
  rfl

/-- **The way back is never needed when a channel is bound.** The steps come to the same as the
operation in one go, refused or not.

**Proof sketch.** A channel of the table that publishes nothing is bound to nothing, since streams do
not vanish (`binding_of_publishedKey?`), and nothing is done to the table or to the session between
the steps. -/
theorem bind_eq_bindInSteps (h : p.wiring.Sound) (c : ChannelId) (target : Publication) :
    outcome (bindInSteps c target) p = outcome (bind c target) p := by
  simp only [bindInSteps, bind, outcome_bind, outcome_find]
  cases hfind : p.find? c with
  | none => rfl
  | some found =>
    obtain ⟨sid, session⟩ := found
    obtain ⟨hc, hs⟩ := find?_eq_some_iff.1 hfind
    simp only [outcome_get]
    cases hkey : p.publishedKey? session with
    | some key => rfl
    | none =>
      obtain ⟨events, hmake⟩ := outcome_makeStream target p
      simp only [outcome_bind, hmake, outcome_attachNew]
      cases ((p.report events).application target.application).attach c
        (p.report events).streams.size _ with
      | error e => rfl
      | ok a =>
        have hidle : session.binding = none := binding_of_publishedKey? h hs hkey
        have hchannel : session.channel = c := by
          obtain ⟨b, hsession⟩ := h.session_of_channel hc
          obtain ⟨s', hs', hchannel, -⟩ := session?_eq_some_iff.1 hsession
          cases hs.symm.trans hs'
          exact hchannel
        subst hchannel
        let attached : Provider :=
          { (p.report events).modifyApplication target.application fun _ => a with
            streams := p.streams.add (Stream.create
              ((p.application target.application).streamKey target.stream) target.tracks).1 }
        exact outcome_bindOrDetach (p := attached) hc hs hidle _ _

/-! ## What a refusal leaves as it was -/

/-- The operations that a provider may refuse. -/
inductive Call where
  | enroll (c : ChannelId) (past : Past) (timeout : Option Nat)
    (stream : Option (ApplicationId × Stream))
  | enrollInSteps (c : ChannelId) (past : Past) (timeout : Option Nat)
    (bound : Option (Binding × StreamKey))
  | createChannel (c : ChannelId) (timeout : Option Nat) (target : Option Publication)
  | bind (c : ChannelId) (target : Publication)
  | publish (c : ChannelId) (application stream : String) (tracks : List TrackInfo)
  | setTimeout (c : ChannelId) (timeout : Nat)
  | ingest (c : ChannelId) (packet : Packet)

/-- The operation, without what it returns. -/
def Call.perform : Call → Step Unit
  | .enroll c past timeout stream => (fun _ => ()) <$> Provider.enroll c past timeout stream
  | .enrollInSteps c past timeout bound =>
    (fun _ => ()) <$> Provider.enrollInSteps c past timeout bound
  | .createChannel c timeout target => (fun _ => ()) <$> Provider.createChannel c timeout target
  | .bind c target => (fun _ => ()) <$> Provider.bind c target
  | .publish c application stream tracks =>
    (fun _ => ()) <$> Provider.publish c application stream tracks
  | .setTimeout c timeout => Provider.setTimeout c timeout
  | .ingest c packet => Provider.ingest c packet

/-- The operation brings a packet. -/
def Call.delivers : Call → Bool
  | .ingest _ _ => true
  | _ => false

/-- Nothing has changed but that packets have been refused: the table and the applications are as
they were, and so are the sessions and the streams up to their counters and normalizers. -/
structure Untouched (p q : Provider) : Prop where
  same : q = { p with
    sessions := q.sessions
    streams := q.streams
    counters := q.counters
    warnings := q.warnings }
  session : ∀ sid s, p.sessions.get? sid = some s → ∃ n, q.sessions.get? sid =
    some { s with counters := { s.counters with rejected := s.counters.rejected + n } }
  stream : ∀ st s, p.streams.get? st = some s → ∃ s', q.streams.get? st = some s' ∧ s.Unfed s'
  counters : ∃ n, q.counters = { p.counters with unknownDrops := p.counters.unknownDrops + n }

/-- Nothing has changed at all but the reports, and but for sessions that the table has never come
to hold. -/
structure RolledBack (p q : Provider) : Prop where
  same : q = { p with sessions := q.sessions, warnings := q.warnings }
  session : ∀ sid s, p.sessions.get? sid = some s → q.sessions.get? sid = some s

lemma RolledBack.refl (p : Provider) : RolledBack p p :=
  ⟨rfl, fun _ _ h => h⟩

lemma rolledBack_report (p : Provider) (events : List Warning) :
    RolledBack p (p.report events) :=
  ⟨rfl, fun _ _ h => h⟩

lemma rolledBack_addSession (p : Provider) (s : Session) :
    RolledBack p { p with sessions := p.sessions.add s } := by
  refine ⟨rfl, fun sid s' hs => ?_⟩
  rw [Store.get?_add, if_neg, hs]
  rintro rfl
  cases p.sessions.get?_size.symm.trans hs

lemma RolledBack.untouched (h : RolledBack p q) : Untouched p q := by
  have hstreams : q.streams = p.streams := by rw [h.same]
  have hcounters : q.counters = p.counters := by rw [h.same]
  refine ⟨?_, fun sid s hs => ⟨0, h.session sid s hs⟩, fun st s hs => ?_, 0, hcounters⟩
  · rw [hstreams, hcounters]
    exact h.same
  · exact ⟨s, by rw [hstreams, hs], .refl s⟩

/-! ## Channels that are refused -/

lemma eq_of_enroll_error {past : Past} {timeout : Option Nat}
    {stream : Option (ApplicationId × Stream)}
    (h : outcome (enroll c past timeout stream) p = (.error e, q)) : q = p := by
  have hsteps := enroll_eq_enrollInSteps c past timeout stream p
  rw [h] at hsteps
  exact hsteps.1

lemma rolledBack_enrollInSteps {past : Past} {timeout : Option Nat}
    {bound : Option (Binding × StreamKey)}
    (h : outcome (enrollInSteps c past timeout bound) p = (.error e, q)) : RolledBack p q := by
  rw [outcome_enrollInSteps] at h
  dsimp only at h
  split at h
  · cases h
    exact .refl p
  split at h
  · cases h
  split at h
  · cases h
  · cases h
    exact rolledBack_addSession p _

/-- What is wrong with the tracks of a stream is reported, even if the stream is refused. -/
lemma rolledBack_createChannel {timeout : Option Nat} {target : Option Publication}
    (h : outcome (createChannel c timeout target) p = (.error e, q)) : RolledBack p q := by
  unfold createChannel at h
  rw [outcome_bind] at h
  cases target with
  | none =>
    obtain rfl := eq_of_enroll_error h
    exact .refl q
  | some target =>
    obtain ⟨events, hmake⟩ := outcome_makeStream target p
    simp only [Option.mapM_some, outcome_map, outcome_bind, hmake, outcome_pure, Except.map] at h
    obtain rfl := eq_of_enroll_error h
    exact rolledBack_report p events

lemma rolledBack_bind {target : Publication}
    (h : outcome (bind c target) p = (.error e, q)) : RolledBack p q := by
  unfold bind at h
  rw [outcome_bind, outcome_find] at h
  cases hfind : p.find? c with
  | none =>
    rw [hfind] at h
    cases h
    exact .refl p
  | some found =>
    obtain ⟨sid, session⟩ := found
    simp only [hfind, outcome_bind, outcome_get] at h
    cases hkey : p.publishedKey? session with
    | some key =>
      rw [hkey] at h
      cases h
      exact .refl p
    | none =>
      obtain ⟨events, hmake⟩ := outcome_makeStream target p
      simp only [hkey, outcome_bind, hmake, outcome_attachNew] at h
      cases hattach : ((p.report events).application target.application).attach c
        (p.report events).streams.size _ with
      | ok a =>
        rw [hattach] at h
        cases h
      | error e' =>
        rw [hattach] at h
        cases h
        exact rolledBack_report p events

lemma rolledBack_publish {application stream : String} {tracks : List TrackInfo}
    (h : outcome (publish c application stream tracks) p = (.error e, q)) : RolledBack p q := by
  unfold publish at h
  rw [outcome_bind, outcome_get] at h
  dsimp only at h
  split at h
  · cases h
    exact .refl p
  · exact rolledBack_bind h

lemma eq_of_setTimeout_error {timeout : Nat}
    (h : outcome (setTimeout c timeout) p = (.error e, q)) : q = p := by
  unfold setTimeout at h
  rw [outcome_bind, outcome_find] at h
  cases hfind : p.find? c with
  | none =>
    rw [hfind] at h
    cases h
    rfl
  | some found =>
    rw [hfind] at h
    cases h

/-! ## Packets that are refused -/

lemma untouched_dropUnknown (p : Provider) (c : ChannelId) : Untouched p (p.dropUnknown c) := by
  have hcount : Untouched p (p.count TableCounters.dropUnknown) :=
    ⟨rfl, fun sid s hs => ⟨0, hs⟩, fun st s hs => ⟨s, hs, .refl s⟩, 1, rfl⟩
  unfold dropUnknown
  dsimp only
  split
  · exact ⟨rfl, hcount.session, hcount.stream, hcount.counters⟩
  · exact hcount

lemma get?_reject {s : Session} (hs : p.sessions.get? sid = some s) (id : SessionId) :
    ∃ n, (p.reject id).sessions.get? sid =
      some { s with counters := { s.counters with rejected := s.counters.rejected + n } } := by
  show ∃ n, (p.sessions.modify id _).get? sid = _
  rw [Store.get?_modify, hs]
  split
  · exact ⟨1, rfl⟩
  · exact ⟨0, rfl⟩

lemma untouched_ingest {packet : Packet}
    (h : outcome (ingest c packet) p = (.error e, q)) : Untouched p q := by
  cases hfind : p.find? c with
  | none =>
    simp only [ingest, outcome_bind, outcome_get, hfind, outcome_set, outcome_throw] at h
    cases h
    exact untouched_dropUnknown p c
  | some found =>
    obtain ⟨sid, session⟩ := found
    cases hpublished : p.publishedStream? session with
    | none =>
      simp only [ingest, outcome_bind, outcome_get, hfind, hpublished, outcome_set,
        outcome_throw] at h
      cases h
      exact ⟨rfl, fun _ _ hs => get?_reject hs sid, fun st s hs => ⟨s, hs, .refl s⟩, 0, rfl⟩
    | some published =>
      obtain ⟨st, stream⟩ := published
      rw [outcome_ingest hfind hpublished] at h
      cases hresult : (stream.ingest packet).result with
      | ok u =>
        rw [hresult] at h
        cases h
      | error e' =>
        rw [hresult] at h
        cases h
        refine ⟨rfl, fun _ _ hs => get?_reject hs sid, fun st' s hs => ?_, 0, rfl⟩
        show ∃ s', (p.streams.modify st _).get? st' = some s' ∧ _
        rw [Store.get?_modify, hs]
        split
        · next heq =>
          subst heq
          cases hs.symm.trans (get?_of_publishedStream? hpublished)
          exact ⟨_, rfl, Stream.unfed_of_ingest hresult⟩
        · exact ⟨s, rfl, .refl s⟩

/-! ## Whatever is refused -/

/-- **Whatever is refused leaves the provider as it was.** Take any state, and a channel that is not
created, not bound, not allowed another silence, or whose packet is not taken, for whatever reason.
The channel table and the applications are as they were, with what they have attached and whether
they are closed, and so are the registry, the clock and the reaper. The sessions keep their
bindings, their timeouts and their last signs of life; only the count of what they have refused may
have grown. The streams keep their queues and are open or closed as before; only the counts of what
they have been handed and of what they could not convert may have grown, and what they keep for
conversion may have changed. Of the counts of the table only the packets for unknown channels may
have grown. If it was no packet that was refused, then there is no change at all but reports, and
but for sessions that the table has never come to hold: what publishes under a name goes on.

**Proof sketch.** By cases on the operation. A channel that comes bound is taken out of the table
again (`outcome_enrollInSteps`), and every other refusal comes before the first change. What a
stream refuses it does not queue (`Stream.unfed_of_ingest`). -/
theorem refused_untouched {call : Call} (h : outcome call.perform p = (.error e, q)) :
    Untouched p q ∧ (call.delivers = false → RolledBack p q) := by
  -- what an operation returns does not matter, since it is refused
  have hforget {α : Type} {x : Step α}
      (hx : outcome ((fun _ => ()) <$> x) p = (.error e, q)) : outcome x p = (.error e, q) := by
    rw [outcome_map] at hx
    rcases hr : outcome x p with ⟨e' | a, q'⟩
    · rw [hr] at hx
      cases hx
      rfl
    · rw [hr] at hx
      cases hx
  have hback (hback : RolledBack p q) : Untouched p q ∧ (call.delivers = false → RolledBack p q) :=
    ⟨hback.untouched, fun _ => hback⟩
  cases call with
  | enroll c past timeout stream =>
    obtain rfl := eq_of_enroll_error (hforget h)
    exact hback (.refl q)
  | enrollInSteps c past timeout bound => exact hback (rolledBack_enrollInSteps (hforget h))
  | createChannel c timeout target => exact hback (rolledBack_createChannel (hforget h))
  | bind c target => exact hback (rolledBack_bind (hforget h))
  | publish c application stream tracks => exact hback (rolledBack_publish (hforget h))
  | setTimeout c timeout =>
    obtain rfl := eq_of_setTimeout_error h
    exact hback (.refl q)
  | ingest c packet => exact ⟨untouched_ingest h, nofun⟩

/-- While a channel publishes, another one comes bound to a stream of the same name, and the first
one delivers a packet of a track that is not declared. -/
theorem refused_untouched_name_in_use :
    let p := run { name := "media" } [.createApplication "live",
      .createChannel 7 none (some ⟨0, "cam", [⟨1, .millis, .opus, none⟩]⟩)]
    let second : Call := .enrollInSteps 8 (.ago 0) none (some (⟨0, 1⟩, ⟨"live", "cam"⟩))
    let packet : Call := .ingest 7 (.blank 2 0)
    (outcome second.perform p).1 = .error (.streamInUse ⟨"live", "cam"⟩) ∧
      RolledBack p (outcome second.perform p).2 ∧
    (outcome packet.perform p).1 = .error (.stream (.unknownTrack 2)) ∧
      Untouched p (outcome packet.perform p).2 ∧
      ((outcome packet.perform p).2.sessions.get? 0).map (·.counters.rejected) = some 1 := by
  intro p second packet
  have hsecond : (outcome second.perform p).1 = .error (.streamInUse ⟨"live", "cam"⟩) := by
    decide
  have hpacket : (outcome packet.perform p).1 = .error (.stream (.unknownTrack 2)) := by
    decide
  exact ⟨hsecond, (refused_untouched (Prod.ext hsecond rfl)).2 rfl, hpacket,
    (refused_untouched (Prod.ext hpacket rfl)).1, by decide⟩

end Provider

end LiveMedia
