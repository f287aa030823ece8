import LiveMedia.Proofs.Provider.Refusals
import LiveMedia.Proofs.Stream.Accounts

set_option autoImplicit false

/-!
# What the operations count

The books of a provider are what is left of it if everything but the counters is forgotten, and the
numbers that they have to agree with: how many channels there are, and how many packets wait on each
stream. Whatever is done without bringing a packet counts nothing on a session or on a stream, and
the table counts every channel that comes or goes.

## Main definitions

* `LiveMedia.Books`, `LiveMedia.Provider.books` — what is counted.
* `LiveMedia.Books.Even` — the table has counted the channels that have come and gone.
* `LiveMedia.Books.Idles` — no packet is counted, and the books of the table stay even.

## Main results

* `LiveMedia.Provider.books_releaseDeleted` — a session that is let go is counted once.
* `LiveMedia.Provider.idles_evict`, `LiveMedia.Provider.idles_sweepIn` — removals.
* `LiveMedia.Provider.idles_enroll`, `LiveMedia.Provider.books_bind` — creation and binding, whether
  they are refused or not.
-/

namespace LiveMedia

/-- What a provider and the objects that it has handed out have counted. What is not there has
counted nothing. -/
structure Books where
  table : TableCounters
  /-- The number of channels of the table. -/
  channels : Nat
  session : SessionId → ChannelCounters
  stream : StreamId → Stream.Book

namespace Books

/-- The table has counted the channels that have come and gone. -/
structure Even (b : Books) : Prop where
  created : b.table.created = b.table.deleted + b.channels
  removed : b.table.reaped + b.table.evicted ≤ b.table.deleted

/-- No packet is counted, and the table goes on counting its channels. -/
structure Idles (b b' : Books) : Prop where
  session : b'.session = b.session
  stream : b'.stream = b.stream
  even : b.Even → b'.Even

variable {b b' b'' : Books}

lemma Idles.refl (b : Books) : b.Idles b :=
  ⟨rfl, rfl, id⟩

lemma Idles.trans (h : b.Idles b') (h' : b'.Idles b'') : b.Idles b'' :=
  ⟨h'.session.trans h.session, h'.stream.trans h.stream, h'.even ∘ h.even⟩

lemma Idles.of_eq (h : b' = b) : b.Idles b' :=
  h ▸ .refl b

/-- So many channels are removed, each counted once, some of them as silent or as those of an
application. -/
lemma idles_of_removed (deleted reaped evicted : Nat) {channels : Nat} {t : TableCounters}
    (ht : t = { b.table with
      deleted := b.table.deleted + deleted
      reaped := b.table.reaped + reaped
      evicted := b.table.evicted + evicted })
    (hchannels : channels + deleted = b.channels) (hcause : reaped + evicted ≤ deleted) :
    b.Idles { b with table := t, channels } := by
  refine ⟨rfl, rfl, fun h => ?_⟩
  have hcreated := h.created
  have hremoved := h.removed
  subst ht
  constructor <;> dsimp only <;> omega

end Books

/-! ## What is told of each object -/

namespace Store

variable {α β : Type} {f : α → β} {missing : β} {s : Store α} {x : α} {id : Nat}

/-- What is told of each object of a store, and of those that are not there. -/
def tell (f : α → β) (missing : β) (s : Store α) (id : Nat) : β :=
  ((s.get? id).map f).getD missing

lemma tell_of_get? (h : s.get? id = some x) : s.tell f missing id = f x := by
  rw [tell, h]
  rfl

/-- An object changes in what is not told. -/
lemma tell_modify {g : α → α} (h : ∀ x, f (g x) = f x) (s : Store α) (id : Nat) :
    (s.modify id g).tell f missing = s.tell f missing := by
  funext k
  rw [tell, tell, get?_modify]
  split
  · rw [Option.map_map]
    congr 2
    exact funext h
  · rfl

/-- An object that is there changes. -/
lemma tell_modify_of_get? (h : s.get? id = some x) (g : α → α) (k : Nat) :
    (s.modify id g).tell f missing k = if k = id then f (g x) else s.tell f missing k := by
  rw [tell, get?_modify]
  split
  · next hk =>
    rw [hk, h]
    rfl
  · rfl

/-- An object that is not there does not change. -/
lemma modify_of_get?_eq_none (h : s.get? id = none) (g : α → α) : s.modify id g = s :=
  congrArg Store.mk (List.modify_eq_self (List.getElem?_eq_none_iff.1 h))

/-- What is told of a new object is what was told before it was there. -/
lemma tell_add (h : f x = missing) (s : Store α) : (s.add x).tell f missing = s.tell f missing := by
  funext k
  rw [tell, tell, get?_add]
  split
  · next hk =>
    rw [hk, get?_size, Option.map_some, h]
    rfl
  · rfl

end Store

namespace Provider

/-- What the provider and the objects that it has handed out have counted. -/
def books (p : Provider) : Books where
  table := p.counters
  channels := p.channels.size
  session := p.sessions.tell Session.counters {}
  stream := p.streams.tell Stream.book {}

variable {p q : Provider} {sid : SessionId} {c : ChannelId} {st : StreamId}

/-! ## Parts of operations -/

@[simp] lemma books_report (p : Provider) (events : List Warning) :
    (p.report events).books = p.books := rfl

@[simp] lemma books_modifyApplication (p : Provider) (A : ApplicationId)
    (f : Application → Application) : (p.modifyApplication A f).books = p.books := rfl

/-- A session changes otherwise than in its counters. -/
lemma books_modifySession (p : Provider) (sid : SessionId) {f : Session → Session}
    (hf : ∀ s, (f s).counters = s.counters) : (p.modifySession sid f).books = p.books :=
  congrArg (fun session => { p.books with session }) (Store.tell_modify hf p.sessions sid)

/-- A stream changes otherwise than in its book. -/
lemma books_modifyStream (p : Provider) (st : StreamId) {f : Stream → Stream}
    (hf : ∀ s, (f s).book = s.book) : (p.modifyStream st f).books = p.books :=
  congrArg (fun stream => { p.books with stream }) (Store.tell_modify hf p.streams st)

/-- A session that is added has counted nothing. -/
lemma books_addSession (p : Provider) {s : Session} (hs : s.counters = {}) :
    ({ p with sessions := p.sessions.add s } : Provider).books = p.books :=
  congrArg (fun session => { p.books with session }) (Store.tell_add hs p.sessions)

/-- A stream that is added has an empty book. -/
lemma books_addStream (p : Provider) {s : Stream} (hs : s.book = {}) :
    ({ p with streams := p.streams.add s } : Provider).books = p.books :=
  congrArg (fun stream => { p.books with stream }) (Store.tell_add hs p.streams)

@[simp] lemma books_markReceived (p : Provider) (sid : SessionId) :
    (p.markReceived sid).books = p.books :=
  books_modifySession p sid fun _ => rfl

/-- What each step leaves in the books is left there by all of them. -/
lemma books_foldl {α : Type} {f : Provider → α → Provider} (hf : ∀ q x, (f q x).books = q.books)
    (xs : List α) (p : Provider) : (xs.foldl f p).books = p.books := by
  induction xs generalizing p with
  | nil => rfl
  | cons x xs ih => exact (ih (f p x)).trans (hf p x)

lemma idles_foldl {α : Type} {f : Provider → α → Provider}
    (hf : ∀ (q : Provider) x, q.books.Idles (f q x).books) (xs : List α) (p : Provider) :
    p.books.Idles (xs.foldl f p).books := by
  induction xs generalizing p with
  | nil => exact .refl _
  | cons x xs ih => exact (hf p x).trans (ih (f p x))

/-! ## Removals -/

@[simp] lemma books_release (p : Provider) (sid : SessionId) : (p.release sid).books = p.books := by
  unfold release
  split
  · rfl
  · split
    · rfl
    · refine (books_modifyStream _ _ Stream.book_close).trans ?_
      exact books_modifySession p sid fun _ => rfl

/-- A session that is let go is counted once. -/
lemma books_releaseDeleted (p : Provider) (sid : SessionId) :
    (p.releaseDeleted sid).books = { p.books with table := p.books.table.delete } :=
  congrArg (fun b : Books => { b with table := b.table.delete }) (books_release p sid)

lemma books_foldl_releaseDeleted (ids : List SessionId) (p : Provider) :
    (ids.foldl releaseDeleted p).books =
      { p.books with table :=
        { p.books.table with deleted := p.books.table.deleted + ids.length } } := by
  induction ids generalizing p with
  | nil => rfl
  | cons id ids ih =>
    rw [List.foldl_cons, ih, books_releaseDeleted, List.length_cons, Nat.add_comm ids.length,
      ← Nat.add_assoc]
    rfl

/-- A channel that is in the table is taken out and counted. -/
lemma books_erase (h : p.channels.get? c = some sid) :
    ({ p with channels := p.channels.erase c }.releaseDeleted sid).books =
        { p.books with
          table := p.books.table.delete
          channels := (p.channels.erase c).size } ∧
      (p.channels.erase c).size + 1 = p.books.channels :=
  ⟨books_releaseDeleted _ sid, Table.size_erase h⟩

lemma idles_deleteChannel (p : Provider) (c : ChannelId) :
    p.books.Idles (p.deleteChannel c).2.books := by
  unfold deleteChannel
  split
  · exact .refl _
  · next sid hc =>
    obtain ⟨hbooks, hsize⟩ := books_erase hc
    rw [hbooks]
    exact Books.idles_of_removed 1 0 0 rfl hsize (Nat.zero_le 1)

@[simp] lemma books_closeApplication (p : Provider) (A : ApplicationId) :
    (p.closeApplication A).books = p.books :=
  books_foldl (fun q st => books_modifyStream q st Stream.book_close) _ _

/-- The channels of an application are counted twice when they are removed with it: as channels that
are removed, and as channels of an application. -/
lemma idles_evict (p : Provider) (A : ApplicationId) : p.books.Idles (p.evict A).2.books := by
  let evicted := p.channels.filter fun _ id => p.publishesInto A id
  let kept : Provider :=
    { p with channels := p.channels.filter fun _ id => !p.publishesInto A id }
  have hsize : kept.channels.size + evicted.size = p.channels.size := by
    rw [Nat.add_comm]
    exact Table.size_filter_add _ _
  have hreleased := books_foldl_releaseDeleted evicted.values kept
  have hlength : evicted.values.length = evicted.size := List.length_map _
  rw [hlength] at hreleased
  have hbooks : (p.evict A).2.books =
      { p.books with
        table := { p.books.table with
          deleted := p.books.table.deleted + evicted.size
          evicted := p.books.table.evicted + evicted.size }
        channels := kept.channels.size } := by
    refine (congrArg (fun b : Books => { b with table := b.table.evict evicted.size })
      ((books_closeApplication _ A).trans hreleased)).trans ?_
    rfl
  rw [hbooks]
  exact Books.idles_of_removed evicted.size 0 evicted.size rfl hsize (by omega)

lemma idles_deleteApplication (p : Provider) (name : String) :
    p.books.Idles (p.deleteApplication name).2.books := by
  unfold deleteApplication
  split
  · exact .refl _
  · next A _ => exact idles_evict { p with registry := p.registry.erase name } A

lemma idles_clear (p : Provider) : p.books.Idles p.clear.2.books := by
  have hbooks := books_foldl_releaseDeleted p.channels.values { p with channels := ∅ }
  have hlength : p.channels.values.length = p.channels.size := List.length_map _
  rw [hlength] at hbooks
  have hclear : p.clear.2.books = _ := hbooks
  rw [hclear]
  exact Books.idles_of_removed (b := p.books) p.channels.size 0 0 rfl (Nat.zero_add _) (Nat.zero_le _)

lemma idles_shutdown (p : Provider) : p.books.Idles p.shutdown.books := by
  let stopped : Provider := { p with due := none }
  have hcleared : p.books.Idles stopped.clear.2.books := idles_clear stopped
  exact hcleared.trans (idles_foldl idles_evict _ { stopped.clear.2 with registry := ∅ })

/-! ## Sweeps -/

@[simp] lemma books_callHook (p : Provider) (sid : SessionId) (c : ChannelId) :
    (p.callHook sid c).books = p.books := by
  unfold callHook
  split
  · rfl
  · exact books_foldl books_markReceived _ _

/-- A session that is removed in a sweep is counted twice: as a channel that is removed, and as one
that was silent for too long. -/
lemma idles_visit (now : Time) (s : Provider × List ChannelId) (sid : SessionId) :
    s.1.books.Idles (visit now s sid).1.books := by
  obtain ⟨p, reaped⟩ := s
  unfold visit
  dsimp only
  split
  · exact .refl _
  · next session hs =>
    split
    · let called := (p.report [p.silenceReport session]).callHook sid session.channel
      have hcalled : called.books = p.books := by rw [books_callHook, books_report]
      have hwiring : called.wiring = p.wiring := by rw [wiring_callHook, wiring_report]
      split
      · next hover =>
        have hc : called.channels.get? session.channel = some sid :=
          channel_of_isLive hwiring hs (Bool.and_eq_true_iff.1 hover).1
        obtain ⟨hbooks, hsize⟩ := books_erase hc
        have hreap : (called.reap sid session.channel).books = { called.books with
            table := called.books.table.delete.reap
            channels := (called.channels.erase session.channel).size } :=
          congrArg (fun b : Books => { b with table := b.table.reap }) hbooks
        show p.books.Idles (called.reap sid session.channel).books
        rw [hreap, ← hcalled]
        exact Books.idles_of_removed 1 1 0 rfl hsize le_rfl
      · exact .of_eq hcalled
    · exact .refl _

lemma idles_sweepIn (p : Provider) (order : List SessionId) (now : Time) :
    p.books.Idles (p.sweepIn order now).1.books := by
  suffices h : ∀ s : Provider × List ChannelId,
      s.1.books.Idles (order.foldl (visit now) s).1.books from h (p, [])
  induction order with
  | nil => exact fun s => .refl _
  | cons sid order ih => exact fun s => (idles_visit now s sid).trans (ih _)

lemma idles_tick (p : Provider) (next : Time) : p.books.Idles (p.tick next).books :=
  idles_sweepIn p p.channels.values p.now

lemma idles_sleep (p : Provider) (ms : Nat) : p.books.Idles (p.sleep ms).books :=
  idles_foldl (fun q time => idles_tick { q with now := time } _) (p.dueTimes (p.now + ms)) p

lemma idles_jump (p : Provider) (ms : Nat) : p.books.Idles (p.jump ms).books := by
  have hmoved : ({ p with now := p.now + ms } : Provider).books = p.books := rfl
  unfold jump
  dsimp only
  rw [← hmoved]
  split
  · exact .refl _
  · split
    · exact idles_tick _ _
    · exact idles_foldl (fun q _ => idles_tick q _) _ _

lemma idles_start (p : Provider) : p.books.Idles p.start.books := by
  unfold start
  split
  · exact .refl _
  · exact idles_tick p _

/-! ## Creation -/

/-- A new channel is counted. -/
lemma idles_entered {s : Session} (hs : s.counters = {}) (hc : p.channels.get? s.channel = none) :
    p.books.Idles ((p.entered s).count TableCounters.create).books := by
  have hsize : (p.channels.insert s.channel p.sessions.size).size = p.channels.size + 1 :=
    Table.size_insert hc _
  refine ⟨Store.tell_add hs p.sessions, rfl, fun h => ⟨?_, h.removed⟩⟩
  show p.counters.created + 1 = p.counters.deleted + (p.channels.insert _ _).size
  rw [hsize, ← Nat.add_assoc]
  exact congrArg (· + 1) h.created

lemma idles_enrollInSteps (p : Provider) (c : ChannelId) (past : Past) (timeout : Option Nat)
    (bound : Option (Binding × StreamKey)) :
    p.books.Idles (outcome (enrollInSteps c past timeout bound) p).2.books := by
  rw [outcome_enrollInSteps]
  dsimp only
  split
  · exact .refl _
  · next hc =>
    have hfree := get?_of_not_contains hc
    split
    · exact idles_entered rfl hfree
    · split
      · exact idles_entered rfl hfree
      · exact .of_eq (books_addSession p rfl)

lemma idles_enroll (p : Provider) (c : ChannelId) (past : Past) (timeout : Option Nat)
    {stream : Option (ApplicationId × Stream)} (hnew : ∀ x ∈ stream, x.2.book = {}) :
    p.books.Idles (outcome (enroll c past timeout stream) p).2.books := by
  have hsteps := enroll_eq_enrollInSteps c past timeout stream p
  rcases hout : outcome (enroll c past timeout stream) p with ⟨e | id, q⟩ <;> rw [hout] at hsteps
  · rw [hsteps.1]
    exact .refl _
  · have hholding : (p.holding stream).books = p.books := by
      cases stream with
      | none => rfl
      | some x => exact books_addStream p (hnew x rfl)
    have hidles := idles_enrollInSteps (p.holding stream) c past timeout (p.boundTo stream)
    rw [hsteps, hholding] at hidles
    exact hidles

lemma idles_createChannel (p : Provider) (c : ChannelId) (timeout : Option Nat)
    (target : Option Publication) :
    p.books.Idles (outcome (createChannel c timeout target) p).2.books := by
  unfold createChannel
  rw [outcome_bind]
  cases target with
  | none => exact idles_enroll p c (.ago 0) timeout nofun
  | some target =>
    obtain ⟨events, hmake⟩ := outcome_makeStream target p
    simp only [Option.mapM_some, outcome_map, outcome_bind, hmake, outcome_pure, Except.map]
    rw [← books_report p events]
    refine idles_enroll (p.report events) c (.ago 0) timeout fun x hx => ?_
    cases hx
    exact Stream.book_create _ _

/-! ## Publishing -/

variable {b : Books}

/-- The provider has these books. -/
def HasBooks (b : Books) (p : Provider) : Prop :=
  p.books = b

lemma hasBooks_find (c : ChannelId) : Preserves (HasBooks b) (find c) := by
  intro p h
  rw [outcome_find]
  cases p.find? c <;> exact h

lemma hasBooks_modifySession (sid : SessionId) {f : Session → Session}
    (hf : ∀ s, (f s).counters = s.counters) :
    Preserves (HasBooks b) (modify (·.modifySession sid f) : Step Unit) :=
  .modify fun p h => (books_modifySession p sid hf).trans h

/-- A new stream is made and attached, whatever becomes of it then. -/
lemma hasBooks_attaching (c : ChannelId) (target : Publication) {α : Type} {rest : Binding → Step α}
    (hrest : ∀ binding, Preserves (HasBooks b) (rest binding)) :
    Preserves (HasBooks b)
      (makeStream target >>= fun s => attachNew c target.application s >>= rest) := by
  intro p h
  obtain ⟨events, hmake⟩ := outcome_makeStream target p
  rw [outcome_bind, hmake]
  dsimp only
  rw [outcome_bind, outcome_attachNew]
  split
  · next heq =>
    split at heq
    · cases heq
      exact hrest _ _ ((books_addStream _ (Stream.book_create _ _)).trans h)
    · cases heq
  · next heq =>
    split at heq
    · cases heq
    · cases heq
      exact h

/-- **A channel that is bound counts nothing**, whether it is refused or not. -/
lemma hasBooks_bind (c : ChannelId) (target : Publication) :
    Preserves (HasBooks b) (bind c target) := by
  refine (hasBooks_find c).bind ?_
  rintro ⟨sid, session⟩
  have hrest := hasBooks_attaching (b := b) c target fun binding =>
    (hasBooks_modifySession sid (f := fun s => { s with binding := some binding })
      fun _ => rfl).bind fun _ => Preserves.pure binding.stream
  refine Preserves.get.bind fun p => ?_
  dsimp only
  split
  · exact (Preserves.throw _).bind fun _ => hrest
  · exact hrest

lemma hasBooks_publish (c : ChannelId) (application stream : String) (tracks : List TrackInfo) :
    Preserves (HasBooks b) (publish c application stream tracks) := by
  refine Preserves.get.bind fun p => ?_
  split
  · exact .throw _
  · exact hasBooks_bind c _

/-- A session that is bound or not counts nothing. -/
lemma hasBooks_bindSession (sid : SessionId) (binding : Binding) :
    Preserves (HasBooks b) (bindSession sid binding) := by
  intro p h
  have hbound := books_modifySession p sid (f := fun s => { s with binding := some binding })
    fun _ => rfl
  rw [bindSession, outcome_bind, outcome_get]
  dsimp only
  split
  · exact h
  · exact hbound.trans h

/-- The way back counts nothing either. -/
lemma hasBooks_bindOrDetach (sid : SessionId) (c : ChannelId) (binding : Binding) :
    Preserves (HasBooks b) (bindOrDetach sid c binding) := by
  have hdetach : Preserves (HasBooks b)
      (modify fun p => (p.detachStream binding.application c).2 : Step Unit) :=
    .modify fun p h => h
  have hrelease : Preserves (HasBooks b) (modify (·.release sid) : Step Unit) :=
    .modify fun p h => (books_release p sid).trans h
  refine .bind (.tryCatch (hasBooks_bindSession sid binding) fun e =>
    hdetach.bind fun _ => .throw e) fun _ => Preserves.get.bind fun p => ?_
  split
  · exact hrelease.bind fun _ => (Preserves.throw _).bind fun _ => .pure _
  · exact .pure _

lemma hasBooks_bindInSteps (c : ChannelId) (target : Publication) :
    Preserves (HasBooks b) (bindInSteps c target) := by
  refine (hasBooks_find c).bind ?_
  rintro ⟨sid, session⟩
  have hrest := hasBooks_attaching (b := b) c target fun binding =>
    hasBooks_bindOrDetach sid c binding
  refine Preserves.get.bind fun p => ?_
  dsimp only
  split
  · exact (Preserves.throw _).bind fun _ => hrest
  · exact hrest

/-! ## Signs of life -/

lemma hasBooks_setTimeout (c : ChannelId) (timeout : Nat) :
    Preserves (HasBooks b) (setTimeout c timeout) :=
  (hasBooks_find c).bind fun _ => hasBooks_modifySession _ fun _ => rfl

lemma books_touch (p : Provider) (c : ChannelId) : (p.touch c).2.books = p.books := by
  unfold touch
  split
  · exact books_markReceived p _
  · rfl

end Provider

end LiveMedia
