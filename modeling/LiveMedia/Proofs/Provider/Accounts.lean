import LiveMedia.Proofs.Provider.Books

set_option autoImplicit false

/-!
# The accounts of a provider

A ledger has an entry for every packet that is delivered over a channel of the table, and for
everything that is done to a stream, through its channel or by those who hold it. In every state the
counters of the channels and of the streams are what the ledger says, and the counters of the table
agree with the channels that it holds.

## Main definitions

* `LiveMedia.Provider.Deed`, `LiveMedia.Provider.does` — what is done to a provider and to the
  objects that it has handed out.
* `LiveMedia.Provider.Entry`, `LiveMedia.Provider.ledger` — the ledger of a run.
* `LiveMedia.Books.Balanced` — the books agree with a ledger.

## Main results

* `LiveMedia.Provider.balanced_ingest` — a packet is entered and counted.
* `LiveMedia.Provider.balanced_does` — every deed keeps the books balanced.
* `LiveMedia.Provider.counters_of_ledger` — the counters after any deeds.
-/

namespace LiveMedia

namespace Provider

/-! ## Deeds and ledgers -/

/-- What is done to a provider, or to an object that it has handed out. -/
inductive Deed where
  | op (o : Op)
  /-- A channel is created step by step, bound to any stream or to none. -/
  | enrollInSteps (c : ChannelId) (past : Past) (timeout : Option Nat)
    (bound : Option (Binding × StreamKey))
  | bindInSteps (c : ChannelId) (target : Publication)
  /-- A stream is made that no channel publishes yet. -/
  | create (key : StreamKey) (infos : List TrackInfo)
  /-- Something is done to a stream by its consumers or by whoever holds it. -/
  | stream (st : StreamId) (o : Stream.Op)
  /-- A session is given a sign of life by whoever holds it. -/
  | mark (sid : SessionId)
  /-- A session is given a timeout by whoever holds it. -/
  | retime (sid : SessionId) (timeout : Nat)
  /-- Applications change, by whoever holds them. -/
  | applications (f : Store Application → Store Application)
  /-- Something is logged, or taken out of the logs. -/
  | logs (warnings : List Warning → List Warning)
    (hookCalls : List (Time × ChannelId) → List (Time × ChannelId))

/-- The provider after a deed, whether it is refused or not. -/
def does (p : Provider) : Deed → Provider
  | .op o => p.apply o
  | .enrollInSteps c past timeout bound => (outcome (enrollInSteps c past timeout bound) p).2
  | .bindInSteps c target => (outcome (bindInSteps c target) p).2
  | .create key infos => { p with streams := p.streams.add (Stream.create key infos).1 }
  | .stream st o => p.modifyStream st fun s => (s.perform o).2
  | .mark sid => p.markReceived sid
  | .retime sid timeout => p.modifySession sid fun s => { s with timeout }
  | .applications f => { p with applications := f p.applications }
  | .logs f g => { p with warnings := f p.warnings, hookCalls := g p.hookCalls }

/-- The provider after one deed after another. -/
def doesAll (p : Provider) (ds : List Deed) : Provider :=
  ds.foldl does p

/-- An entry of a ledger. -/
inductive Entry where
  /-- A packet is delivered over a channel that is in the table under this session. -/
  | delivery (sid : SessionId) (packet : Packet) (answer : Except ProviderError Unit)
  /-- Something is done to the packets of a stream. -/
  | charge (st : StreamId) (c : Stream.Charge)

/-- What a deed enters in the ledger. -/
def entries (p : Provider) : Deed → List Entry
  | .op (.ingest c packet) =>
    match p.find? c with
    | none => []
    | some (sid, session) =>
      ((p.publishedStream? session).map fun (st, s) =>
        Entry.charge st (s.charge (.ingest packet))).toList ++
      [.delivery sid packet (outcome (ingest c packet) p).1]
  | .stream st o => ((p.streams.get? st).map fun s => Entry.charge st (s.charge o)).toList
  | _ => []

/-- The ledger of one deed after another. -/
def ledger : Provider → List Deed → List Entry
  | _, [] => []
  | p, d :: ds => p.entries d ++ (p.does d).ledger ds

/-- The packets that are delivered over the channel of a session, with the answers. -/
def deliveries (sid : SessionId) (es : List Entry) : List (Packet × Except ProviderError Unit) :=
  es.filterMap fun
    | .delivery id packet answer => if id = sid then some (packet, answer) else none
    | .charge _ _ => none

/-- What is done to the packets of a stream. -/
def charges (st : StreamId) (es : List Entry) : List Stream.Charge :=
  es.filterMap fun
    | .charge id c => if id = st then some c else none
    | .delivery _ _ _ => none

/-- The packet is accepted. -/
def isAccepted : Packet × Except ProviderError Unit → Bool
  | (_, .ok ()) => true
  | (_, .error _) => false

lemma deliveries_append (sid : SessionId) (es es' : List Entry) :
    deliveries sid (es ++ es') = deliveries sid es ++ deliveries sid es' :=
  List.filterMap_append

lemma charges_append (st : StreamId) (es es' : List Entry) :
    charges st (es ++ es') = charges st es ++ charges st es' :=
  List.filterMap_append

end Provider

open Provider

/-! ## Balance -/

/-- The counters of a channel agree with the packets that are delivered over it. -/
structure ChannelCounters.Balanced (c : ChannelCounters)
    (ds : List (Packet × Except ProviderError Unit)) : Prop where
  packets : c.packets = ds.countP isAccepted
  bytes : c.bytes = ((ds.filter isAccepted).map fun d => d.1.size).sum
  rejected : c.rejected = ds.countP fun d => !isAccepted d

/-- The books agree with a ledger. -/
structure Books.Balanced (b : Books) (es : List Entry) : Prop extends b.Even where
  session : ∀ sid, (b.session sid).Balanced (deliveries sid es)
  stream : ∀ st, (b.stream st).Balanced (charges st es)

namespace ChannelCounters.Balanced

variable {c : ChannelCounters} {ds : List (Packet × Except ProviderError Unit)}

lemma nil : Balanced {} [] :=
  ⟨rfl, rfl, rfl⟩

/-- A packet that is accepted is counted with its bytes. -/
lemma packet (h : c.Balanced ds) (p : Packet) :
    (c.packet p.size).Balanced (ds ++ [(p, .ok ())]) where
  packets := by simp [ChannelCounters.packet, h.packets, isAccepted]
  bytes := by simp [ChannelCounters.packet, h.bytes, List.filter_cons, isAccepted]
  rejected := by simp [ChannelCounters.packet, h.rejected, isAccepted]

/-- A packet that is refused is counted without its bytes. -/
lemma reject (h : c.Balanced ds) (p : Packet) (e : ProviderError) :
    c.reject.Balanced (ds ++ [(p, .error e)]) where
  packets := by simp [ChannelCounters.reject, h.packets, isAccepted]
  bytes := by simp [ChannelCounters.reject, h.bytes, isAccepted]
  rejected := by simp [ChannelCounters.reject, h.rejected, isAccepted]

end ChannelCounters.Balanced

lemma Books.Balanced.idles {b b' : Books} {es : List Entry} (h : b.Balanced es)
    (hidles : b.Idles b') : b'.Balanced es where
  toEven := hidles.even h.toEven
  session := hidles.session ▸ h.session
  stream := hidles.stream ▸ h.stream

namespace Provider

variable {p : Provider} {es : List Entry} {sid : SessionId} {session : Session} {st : StreamId}
  {s : Stream} {c : ChannelId} {packet : Packet}

/-! ## What one entry counts -/

/-- What is entered for a stream is counted by that stream alone. -/
lemma balanced_charge (h : p.books.Balanced es) (hs : p.streams.get? st = some s) (o : Stream.Op)
    {f : Stream → Stream} (hf : f s = (s.perform o).2) :
    (p.modifyStream st f).books.Balanced (es ++ [.charge st (s.charge o)]) where
  toEven := ⟨h.created, h.removed⟩
  session id := by
    rw [deliveries_append]
    exact (List.append_nil _).symm ▸ h.session id
  stream id := by
    have hbook := h.stream id
    show ((p.streams.modify st f).tell Stream.book {} id).Balanced _
    rw [Store.tell_modify_of_get? hs, charges_append]
    split
    · next hid =>
      subst hid
      have hcharge : charges id [.charge id (s.charge o)] = [s.charge o] := by simp [charges]
      have htold : p.books.stream id = s.book := Store.tell_of_get? hs
      rw [htold] at hbook
      rw [hf, hcharge]
      exact hbook.perform o
    · next hid =>
      have hcharge : charges id [.charge st (s.charge o)] = [] := by
        simp [charges, Ne.symm hid]
      rw [hcharge, List.append_nil]
      exact hbook

/-- What is entered for a session is counted by that session alone. -/
lemma balanced_delivery (h : p.books.Balanced es) (hs : p.sessions.get? sid = some session)
    {answer : Except ProviderError Unit} {f : Session → Session}
    (hf : ∀ ds, session.counters.Balanced ds →
      (f session).counters.Balanced (ds ++ [(packet, answer)])) :
    (p.modifySession sid f).books.Balanced (es ++ [.delivery sid packet answer]) where
  toEven := ⟨h.created, h.removed⟩
  session id := by
    have hcounters := h.session id
    show ((p.sessions.modify sid f).tell Session.counters {} id).Balanced _
    rw [Store.tell_modify_of_get? hs, deliveries_append]
    split
    · next hid =>
      subst hid
      have hdelivery : deliveries id [.delivery id packet answer] = [(packet, answer)] := by
        simp [deliveries]
      have htold : p.books.session id = session.counters := Store.tell_of_get? hs
      rw [htold] at hcounters
      rw [hdelivery]
      exact hf _ hcounters
    · next hid =>
      have hdelivery : deliveries id [.delivery sid packet answer] = [] := by
        simp [deliveries, Ne.symm hid]
      rw [hdelivery, List.append_nil]
      exact hcounters
  stream id := by
    rw [charges_append]
    exact (List.append_nil _).symm ▸ h.stream id

lemma balanced_accept (h : p.books.Balanced es) (hs : p.sessions.get? sid = some session)
    (packet : Packet) :
    (p.accept sid packet.size).books.Balanced (es ++ [.delivery sid packet (.ok ())]) := by
  have hmarked : (p.markReceived sid).books.Balanced es := by rwa [books_markReceived]
  have hsession : (p.markReceived sid).sessions.get? sid =
      some { session with lastReceived := p.now } := by
    show (p.sessions.modify sid _).get? sid = _
    rw [Store.get?_modify, if_pos rfl, hs, Option.map_some]
  exact balanced_delivery hmarked hsession fun _ hds => hds.packet packet

lemma balanced_reject (h : p.books.Balanced es) (hs : p.sessions.get? sid = some session)
    (packet : Packet) (e : ProviderError) :
    (p.reject sid).books.Balanced (es ++ [.delivery sid packet (.error e)]) :=
  balanced_delivery h hs fun _ hds => hds.reject packet e

/-- A packet for a channel that is not there is counted on no channel. -/
lemma balanced_dropUnknown (h : p.books.Balanced es) (c : ChannelId) :
    (p.dropUnknown c).books.Balanced es := by
  have hdropped : (p.count TableCounters.dropUnknown).books.Balanced es :=
    ⟨⟨h.created, h.removed⟩, h.session, h.stream⟩
  unfold dropUnknown
  dsimp only
  split <;> exact hdropped

/-- **A packet is entered and counted once**: on its stream, and on its channel with the answer of
the stream. -/
lemma balanced_ingest (h : p.books.Balanced es) (c : ChannelId) (packet : Packet) :
    (outcome (ingest c packet) p).2.books.Balanced (es ++ p.entries (.op (.ingest c packet))) := by
  cases hfind : p.find? c with
  | none =>
    have hentries : p.entries (.op (.ingest c packet)) = [] := by simp only [entries, hfind]
    rw [hentries, List.append_nil]
    simp only [ingest, outcome_bind, outcome_get, hfind, outcome_set, outcome_throw]
    exact balanced_dropUnknown h c
  | some found =>
    obtain ⟨sid, session⟩ := found
    have hsession := (find?_eq_some_iff.1 hfind).2
    cases hpublished : p.publishedStream? session with
    | none =>
      have hentries : p.entries (.op (.ingest c packet)) =
          [.delivery sid packet (outcome (ingest c packet) p).1] := by
        simp only [entries, hfind, hpublished]
        rfl
      rw [hentries]
      simp only [ingest, outcome_bind, outcome_get, hfind, hpublished, outcome_set, outcome_throw]
      exact balanced_reject h hsession packet _
    | some published =>
      obtain ⟨st, s⟩ := published
      have hentries : p.entries (.op (.ingest c packet)) =
          [.charge st (s.charge (.ingest packet))] ++
            [.delivery sid packet (outcome (ingest c packet) p).1] := by
        simp only [entries, hfind, hpublished]
        rfl
      have hcharged := balanced_charge h (get?_of_publishedStream? hpublished) (.ingest packet)
        (f := fun _ => (s.ingest packet).stream) rfl
      rw [hentries, ← List.append_assoc, outcome_ingest hfind hpublished]
      cases (s.ingest packet).result with
      | ok u => exact balanced_accept hcharged hsession packet
      | error e => exact balanced_reject hcharged hsession packet _

/-! ## Deed after deed -/

/-- **Every deed keeps the books balanced**, with what it enters in the ledger. -/
lemma balanced_does (h : p.books.Balanced es) (d : Deed) :
    (p.does d).books.Balanced (es ++ p.entries d) := by
  -- what brings no packet enters nothing
  have hidle {q : Provider} (hq : p.books.Idles q.books) : q.books.Balanced (es ++ []) := by
    rw [List.append_nil]
    exact h.idles hq
  cases d with
  | enrollInSteps c past timeout bound => exact hidle (idles_enrollInSteps p c past timeout bound)
  | bindInSteps c target => exact hidle (.of_eq (hasBooks_bindInSteps c target p rfl))
  | create key infos => exact hidle (.of_eq (books_addStream p (Stream.book_create key infos)))
  | stream st o =>
    cases hs : p.streams.get? st with
    | none =>
      have hentries : p.entries (.stream st o) = [] := by
        simp only [entries, hs]
        rfl
      rw [hentries]
      exact hidle (.of_eq (congrArg (fun streams => books { p with streams })
        (Store.modify_of_get?_eq_none hs _)))
    | some s =>
      have hentries : p.entries (.stream st o) = [.charge st (s.charge o)] := by
        simp only [entries, hs]
        rfl
      rw [hentries]
      exact balanced_charge h hs o rfl
  | mark sid => exact hidle (.of_eq (books_markReceived p sid))
  | retime sid timeout => exact hidle (.of_eq (books_modifySession p sid fun _ => rfl))
  | applications f => exact hidle (.refl _)
  | logs f g => exact hidle (.refl _)
  | op o =>
    cases o with
    | createApplication name =>
      have hbooks : (p.createApplication name).2.books = p.books := by
        unfold createApplication
        split <;> rfl
      exact hidle (.of_eq hbooks)
    | newApplication name => exact hidle (.refl _)
    | enroll c past timeout stream =>
      refine hidle (idles_enroll p c past timeout fun x hx => ?_)
      obtain ⟨⟨A, key, infos⟩, -, rfl⟩ := Option.map_eq_some_iff.1 hx
      exact Stream.book_create key infos
    | createChannel c timeout target => exact hidle (idles_createChannel p c timeout target)
    | bind c target => exact hidle (.of_eq (hasBooks_bind c target p rfl))
    | publish c application stream tracks =>
      exact hidle (.of_eq (hasBooks_publish c application stream tracks p rfl))
    | ingest c packet => exact balanced_ingest h c packet
    | touch c => exact hidle (.of_eq (books_touch p c))
    | setTimeout c timeout => exact hidle (.of_eq (hasBooks_setTimeout c timeout p rfl))
    | deleteChannel c => exact hidle (idles_deleteChannel p c)
    | evict A => exact hidle (idles_evict p A)
    | deleteApplication name => exact hidle (idles_deleteApplication p name)
    | sweep order now => exact hidle (idles_sweepIn p order now)
    | clear => exact hidle (idles_clear p)
    | shutdown => exact hidle (idles_shutdown p)
    | setHook hook => exact hidle (.refl _)
    | start => exact hidle (idles_start p)
    | sleep ms => exact hidle (idles_sleep p ms)
    | jump ms => exact hidle (idles_jump p ms)

lemma balanced_doesAll (h : p.books.Balanced es) (ds : List Deed) :
    (p.doesAll ds).books.Balanced (es ++ p.ledger ds) := by
  induction ds generalizing p es with
  | nil =>
    rw [ledger, List.append_nil]
    exact h
  | cons d ds ih =>
    rw [ledger, ← List.append_assoc]
    exact ih (balanced_does h d)

lemma balanced_new (name : String) (settings : Settings) :
    (books { name, settings }).Balanced [] where
  created := rfl
  removed := le_rfl
  session _ := .nil
  stream _ := Stream.Book.balanced_nil

/-- **The counters of a provider in every state.** Let anything be done to a new provider and to
the objects that it hands out, in any order: channels are created, bound, fed, touched and removed
for whatever reason, whether they are refused or not, streams are consumed, and time passes with its
sweeps. Then the table has removed as many channels as it has created, less those that it holds; and
of those that it has removed, the silent ones and those of removed applications are no more than
all. Every channel has counted the packets that were delivered over it while it was in the table:
those that were accepted, with their bytes, and those that were refused. Every stream has counted
the packets that were handed to it, and each of them once more: it was queued, it could not be
converted, it was dropped before its configuration, it was a sequence header that was absorbed, or
it was of an unknown track. And of the packets that a stream has queued each has been released,
still waits, or has gone with the queue of its track.

**Proof sketch.** The books start even, and every deed keeps them balanced with what it enters in
the ledger (`balanced_does`). Most deeds bring no packet and count none (`Books.Idles`). A packet is
entered for its channel and for its stream (`balanced_ingest`), and what is done to a stream is
counted by the stream (`Stream.adds_perform`). -/
theorem counters_of_ledger (name : String) (settings : Settings) (ds : List Deed) :
    let p := doesAll { name, settings } ds
    let es := ledger { name, settings } ds
    p.counters.created = p.counters.deleted + p.channels.size ∧
    p.counters.reaped + p.counters.evicted ≤ p.counters.deleted ∧
    (∀ sid s, p.sessions.get? sid = some s →
      s.counters.packets = (deliveries sid es).countP isAccepted ∧
      s.counters.bytes = (((deliveries sid es).filter isAccepted).map fun d => d.1.size).sum ∧
      s.counters.rejected = (deliveries sid es).countP fun d => !isAccepted d) ∧
    ∀ st s, p.streams.get? st = some s →
      s.counters.packetsIn = (Stream.handed (charges st es)).length ∧
      s.counters.packetsIn = s.counters.packetsOut + s.counters.conversionErrors +
        s.counters.droppedBeforeConfig +
        (Stream.handed (charges st es)).countP Stream.isAbsorbed +
        (Stream.handed (charges st es)).countP Stream.isUnknown ∧
      s.counters.packetsOut = (Stream.released (charges st es)).length + s.feed.tracks.queued +
        (Stream.discarded (charges st es)).length := by
  intro p es
  have h : p.books.Balanced es := by
    have hrun := balanced_doesAll (balanced_new name settings) ds
    rwa [List.nil_append] at hrun
  refine ⟨h.created, h.removed, fun sid s hs => ?_, fun st s hs => ?_⟩
  · have hcounters := h.session sid
    have htold : p.books.session sid = s.counters := Store.tell_of_get? hs
    rw [htold] at hcounters
    exact ⟨hcounters.packets, hcounters.bytes, hcounters.rejected⟩
  · have hbook := h.stream st
    have htold : p.books.stream st = s.book := Store.tell_of_get? hs
    rw [htold] at hbook
    exact ⟨hbook.packetsIn, hbook.parted, hbook.packetsOut⟩

/-- A channel that its application refuses is never counted, though there is a session for it; one
that is silent for too long is counted when it goes. -/
example :
    let p := doesAll { name := "media" } [.op (.createApplication "live"),
      .op (.createChannel 7 none (some ⟨0, "cam", []⟩)),
      .enrollInSteps 8 (.ago 0) none (some (⟨0, 0⟩, ⟨"live", "cam"⟩)), .op (.sweep [1, 0] 4000)]
    p.counters = { created := 1, deleted := 1, reaped := 1 } ∧ p.sessions.size = 2 := by
  decide

end Provider

end LiveMedia
