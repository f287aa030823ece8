import LiveMedia.Proofs.Feed.Consume
import LiveMedia.Proofs.Track.Normalize
import LiveMedia.Stream
import Mathlib.Data.List.Induction

set_option autoImplicit false

/-!
# The history of a stream

Tracks are declared and removed, packets are ingested, and consumers take packets, all in any
order. For each track that is declared, what has come out since its declaration and what still
waits is what its own normalizer makes of the packets ingested on it, and nothing else.

## Main definitions

* `LiveMedia.Stream.Op`, `LiveMedia.Stream.perform` — what is done to a stream.
* `LiveMedia.Stream.Event`, `LiveMedia.Stream.historyOf` — operations with the packets that they
  release, from the creation of the stream on.
* `LiveMedia.Stream.sinceDeclared` — the declaration of a track that is in force, and the events
  since then.

## Main results

* `LiveMedia.Stream.accounted_perform` — what one operation does to the account of a track.
* `LiveMedia.Stream.track_eq_normalizeAll` — the account of every track after any history.
-/

namespace LiveMedia.Stream

open TrackSet (Releases)

/-! ## Operations and events -/

/-- What is done to a stream. -/
inductive Op where
  | addTrack (info : TrackInfo)
  | removeTrack (track : TrackId)
  | ingest (p : Packet)
  /-- The next packet is taken without waiting. -/
  | pop
  /-- All packets are taken that can be released. -/
  | drain
  | startReceive
  | resumeReceive (waiter : WaiterId)
  | abandonReceive (waiter : WaiterId) (waited : Nat)
  /-- A single step of a consumer; others may act before its next one. -/
  | consumerStep (waiter : WaiterId) (phase : Feed.Phase)
  | listen
  | settle
  | close
  deriving DecidableEq, Repr

/-- The packets that an operation releases, and the stream after it. -/
def perform (s : Stream) : Op → List Packet × Stream
  | .addTrack info => ([], (s.addTrack info).1)
  | .removeTrack track => ([], s.removeTrack track)
  | .ingest p => ([], (s.ingest p).stream)
  | .pop => (s.pop?.1.toList, s.pop?.2)
  | .drain => s.drain
  | .startReceive => (s.startReceive.2.1.released, s.startReceive.2.2)
  | .resumeReceive w => ((s.resumeReceive w).1.released, (s.resumeReceive w).2)
  | .abandonReceive w waited => ([], (s.abandonReceive w waited).1)
  | .consumerStep w phase =>
    ((s.feed.step w phase).2.released, { s with feed := (s.feed.step w phase).1 })
  | .listen => ([], s.listen)
  | .settle => (s.settle.audience.received.drop s.audience.received.length, s.settle)
  | .close => ([], s.close)

/-- An operation and the packets that it has released. -/
structure Event where
  op : Op
  released : List Packet
  deriving DecidableEq, Repr

/-- The events of operations one after another, and the stream after them. -/
def history : Stream → List Op → List Event × Stream
  | s, [] => ([], s)
  | s, op :: ops =>
    let (ps, s) := s.perform op
    let (es, s) := s.history ops
    (⟨op, ps⟩ :: es, s)

/-- The events of a stream from its creation on, which declares its first tracks. -/
def historyOf (key : StreamKey) (infos : List TrackInfo) (ops : List Op) : List Event × Stream :=
  let (es, s) := (create key infos).1.history ops
  (infos.map (fun info => ⟨.addTrack info, []⟩) ++ es, s)

/-! ## The account of a track -/

/-- The packets that are ingested on a track. -/
def ingestedOn (t : TrackId) (es : List Event) : List Packet :=
  es.filterMap fun e =>
    match e.op with
    | .ingest p => if p.track = t then some p else none
    | _ => none

/-- The packets of a track that are released. -/
def releasedOn (t : TrackId) (es : List Event) : List Packet :=
  (es.flatMap Event.released).filter (·.track = t)

/-- The declaration of a track that is in force, and the events since then, after one more
event. -/
def Event.extend (t : TrackId) (d : Option (TrackInfo × List Event)) (e : Event) :
    Option (TrackInfo × List Event) :=
  let continued := d.map fun (info, es) => (info, es ++ [e])
  match e.op with
  | .addTrack info => if info.track = t then some (info, []) else continued
  | .removeTrack u => if u = t then none else continued
  | _ => continued

/-- The declaration of a track that is in force after some events, and the events since then;
`none` if the track is not declared. -/
def sinceDeclared (t : TrackId) (es : List Event) : Option (TrackInfo × List Event) :=
  es.foldl (Event.extend t) none

/-- What is to hold of a track: without a declaration it is unknown; with one, the packets released
since then and the packets that still wait are those that its normalizer leaves of the packets
ingested since then. -/
def Accounted (s : Stream) (t : TrackId) : Option (TrackInfo × List Event) → Prop
  | none => s.normalizers.get? t = none ∧ s.feed.tracks.queue? t = none
  | some (info, es) =>
    s.normalizers.get? t =
        some ((Normalizer.ofInfo info).1.normalizeAll (ingestedOn t es)).2 ∧
      ∃ q, s.feed.tracks.queue? t = some q ∧ q.timebase = info.timebase ∧
        releasedOn t es ++ q.packets =
          ((Normalizer.ofInfo info).1.normalizeAll (ingestedOn t es)).1

variable {s s' : Stream} {t : TrackId} {d : Option (TrackInfo × List Event)} {e : Event}

lemma ingestedOn_concat (es : List Event) (e : Event) :
    ingestedOn t (es ++ [e]) = ingestedOn t es ++ ingestedOn t [e] :=
  List.filterMap_append

lemma releasedOn_concat (es : List Event) (e : Event) :
    releasedOn t (es ++ [e]) = releasedOn t es ++ e.released.filter (·.track = t) := by
  simp [releasedOn]

lemma sinceDeclared_concat (es : List Event) (e : Event) :
    sinceDeclared t (es ++ [e]) = e.extend t (sinceDeclared t es) :=
  List.foldl_concat _ _ _ _

/-! ## What an operation does to a track -/

/-- What an event does to a track that stays declared: the packets ingested on it go through its
normalizer to the end of its queue, and packets are released from the front. A track that is not
declared stays so. -/
structure Continues (s : Stream) (t : TrackId) (e : Event) (s' : Stream) : Prop where
  unknown : s.normalizers.get? t = none → s.feed.tracks.queue? t = none →
    s'.normalizers.get? t = none ∧ s'.feed.tracks.queue? t = none
  known : ∀ n q, s.normalizers.get? t = some n → s.feed.tracks.queue? t = some q →
    s'.normalizers.get? t = some (n.normalizeAll (ingestedOn t [e])).2 ∧
      ∃ q', s'.feed.tracks.queue? t = some q' ∧ q'.timebase = q.timebase ∧
        e.released.filter (·.track = t) ++ q'.packets =
          q.packets ++ (n.normalizeAll (ingestedOn t [e])).1

/-- The account of a track goes on with an event that continues the track. -/
lemma Accounted.continues (hd : s.Accounted t d) (h : s.Continues t e s') :
    s'.Accounted t (d.map fun (info, es) => (info, es ++ [e])) := by
  rcases d with _ | ⟨info, es⟩
  · exact h.unknown hd.1 hd.2
  · obtain ⟨hn, q, hq, htb, hpackets⟩ := hd
    obtain ⟨hn', q', hq', htb', hpackets'⟩ := h.known _ q hn hq
    simp only [Option.map_some, Accounted, ingestedOn_concat, releasedOn_concat,
      Normalizer.normalizeAll_append]
    refine ⟨hn', q', hq', htb'.trans htb, ?_⟩
    rw [List.append_assoc, hpackets', ← List.append_assoc, hpackets]

/-- An event of another track continues a track. -/
lemma Continues.of_eq (hn : s'.normalizers.get? t = s.normalizers.get? t)
    (hq : s'.feed.tracks.queue? t = s.feed.tracks.queue? t) (hin : ingestedOn t [e] = [])
    (hout : e.released = []) : s.Continues t e s' where
  unknown hn' hq' := ⟨hn.trans hn', hq.trans hq'⟩
  known n q hn' hq' := by
    rw [hin, hout]
    exact ⟨hn.trans hn', q, hq.trans hq', rfl, (List.append_nil _).symm⟩

/-- A consumer takes packets as they are released and leaves the normalizers. -/
def Consumes (s : Stream) (ps : List Packet) (s' : Stream) : Prop :=
  Releases s.feed.tracks ps s'.feed.tracks ∧ s'.normalizers = s.normalizers

lemma Consumes.continues (h : s.Consumes e.released s') (hs : s.feed.tracks.Filed)
    (hin : ingestedOn t [e] = []) : s.Continues t e s' where
  unknown hn hq := ⟨h.2 ▸ hn, h.1.queue?_eq_none hq⟩
  known n q hn hq := by
    obtain ⟨rest, hrest, heq⟩ := h.1.queue?_eq_some hs hq
    rw [hin]
    exact ⟨h.2 ▸ hn, _, hrest, rfl, heq.symm.trans (List.append_nil _).symm⟩

/-- The operations that neither change the tracks nor bring a packet. -/
def Op.consumes : Op → Bool
  | .addTrack _ => false
  | .removeTrack _ => false
  | .ingest _ => false
  | _ => true

/-- Whatever neither changes the tracks nor brings a packet takes packets as they are released. -/
lemma consumes_perform (s : Stream) {op : Op} (hop : op.consumes = true) :
    s.Consumes (s.perform op).1 (s.perform op).2 := by
  cases op with
  | addTrack info => cases hop
  | removeTrack u => cases hop
  | ingest p => cases hop
  | pop =>
    cases h : s.feed.pop? with
    | none =>
      simp only [perform, pop?, h]
      exact ⟨.nil _, rfl⟩
    | some r =>
      simp only [perform, pop?, h]
      exact ⟨Feed.releases_of_pop? h, rfl⟩
  | drain => exact ⟨Feed.releases_drain s.feed, rfl⟩
  | startReceive => exact ⟨Feed.releases_advance s.feed.newWaiter.2 _ _, rfl⟩
  | resumeReceive w => exact ⟨Feed.releases_advance s.feed w .wait, rfl⟩
  | abandonReceive w waited => exact ⟨.nil _, rfl⟩
  | consumerStep w phase => exact ⟨Feed.releases_step s.feed w phase, rfl⟩
  | listen => exact ⟨.nil _, rfl⟩
  | settle =>
    obtain ⟨ps, hreceived, hreleases⟩ := s.audience.releases_settle s.feed
    refine ⟨?_, rfl⟩
    -- what has been received before is dropped, and only that
    show Releases s.feed.tracks ((s.audience.settle s.feed).2.received.drop _) _
    rw [hreceived, List.drop_left]
    exact hreleases
  | close => exact ⟨.nil _, rfl⟩

/-- A packet without a declared track changes neither normalizers nor queues. -/
lemma ingest_of_unknown {p : Packet} (h : s.normalizers.get? p.track = none) :
    (s.ingest p).stream.normalizers = s.normalizers ∧
      (s.ingest p).stream.feed.tracks = s.feed.tracks ∧
      (s.ingest p).result = .error (.unknownTrack p.track) := by
  simp only [ingest, h, and_self]

/-- A normalized packet is queued and changes no normalizer. -/
lemma enqueue_eq (s : Stream) (q : Packet) :
    (s.enqueue q).stream.normalizers = s.normalizers ∧
      (s.enqueue q).stream.feed.tracks = s.feed.tracks.enqueue q ∧
      (s.enqueue q).result =
        if s.hasTrack q.track then .ok () else .error (.unknownTrack q.track) := by
  have htracks := s.feed.map_tracks_push? q
  have henqueue := s.feed.tracks.getD_push? q
  rw [← htracks] at henqueue
  unfold enqueue hasTrack
  unfold TrackSet.push? at htracks
  cases hpush : s.feed.push? q with
  | none =>
    rw [hpush] at henqueue htracks
    refine ⟨rfl, henqueue, ?_⟩
    split at htracks
    · cases htracks
    · rename_i h
      rw [if_neg h]
  | some f =>
    rw [hpush] at henqueue htracks
    refine ⟨rfl, henqueue, ?_⟩
    split at htracks
    · rename_i h
      rw [if_pos h]
    · cases htracks

/-- What the normalizer of its track leaves of a packet is queued; the packet is refused only if
it cannot be normalized. -/
lemma ingest_of_known {p : Packet} {n : Normalizer} (h : s.normalizers.get? p.track = some n) :
    (s.ingest p).stream.normalizers =
        s.normalizers.insert p.track (n.normalizeAll [p]).2 ∧
      (s.ingest p).stream.feed.tracks =
        (n.normalizeAll [p]).1.foldl TrackSet.enqueue s.feed.tracks ∧
      (s.hasTrack p.track = true → ∀ u, (s.ingest p).result ≠ .error (.unknownTrack u)) := by
  have hrun : (Normalizer.normalize p n).run = outcome (Normalizer.normalize p) n := rfl
  have htrack := @Normalizer.track_of_normalize n p
  simp only [ingest, h, hrun, Normalizer.normalizeAll_singleton]
  generalize outcome (Normalizer.normalize p) n = out at htrack ⊢
  obtain ⟨e | _ | q, n'⟩ := out
  · cases e <;> exact ⟨rfl, rfl, by simp [dropBeforeConfig]⟩
  · exact ⟨rfl, rfl, by simp⟩
  · obtain ⟨hnormalizers, htracks, hresult⟩ := enqueue_eq
      { s with counters := s.counters.packetIn, normalizers := s.normalizers.insert p.track n' } q
    refine ⟨hnormalizers, htracks, fun hhas u => ?_⟩
    rw [← htrack rfl] at hhas
    have hok := hresult.trans (if_pos hhas)
    simp [hok]

/-- Declaring a track affects its own normalizer and its own queue. -/
lemma addTrack_eq (s : Stream) (info : TrackInfo) (t : TrackId) :
    (s.addTrack info).1.normalizers.get? t =
        (if t = info.track then some (Normalizer.ofInfo info).1 else s.normalizers.get? t) ∧
      (s.addTrack info).1.feed.tracks = s.feed.tracks.create info.track info.timebase :=
  ⟨Table.get?_insert _ _ _ _, Feed.tracks_complete _⟩

/-- Removing a track affects its own normalizer and its own queue. -/
lemma removeTrack_eq (s : Stream) (u t : TrackId) :
    (s.removeTrack u).normalizers.get? t = (if t = u then none else s.normalizers.get? t) ∧
      (s.removeTrack u).feed.tracks = s.feed.tracks.remove u :=
  ⟨Table.get?_erase _ _ _, Feed.tracks_complete _⟩

/-- A packet continues every track: its own takes it in, and the others do not change. -/
lemma continues_ingest (s : Stream) (t : TrackId) (p : Packet) :
    s.Continues t ⟨.ingest p, []⟩ (s.ingest p).stream := by
  by_cases ht : p.track = t
  · subst ht
    have hin : ingestedOn p.track [⟨.ingest p, []⟩] = [p] := by simp [ingestedOn]
    refine ⟨fun hn hq => ?_, fun n q hn hq => ?_⟩
    · obtain ⟨hnormalizers, htracks, -⟩ := ingest_of_unknown hn
      exact ⟨hnormalizers ▸ hn, htracks ▸ hq⟩
    · obtain ⟨hnormalizers, htracks, -⟩ := ingest_of_known hn
      have hmine : (n.normalizeAll [p]).1.filter (·.track = p.track) = (n.normalizeAll [p]).1 :=
        List.filter_eq_self.2 fun q hq => by simpa using Normalizer.track_of_mem_normalizeAll hq
      rw [hin, hnormalizers, htracks, Table.get?_insert, if_pos rfl, TrackSet.queue?_foldl_enqueue,
        hq, hmine]
      exact ⟨rfl, _, rfl, rfl, rfl⟩
  · refine .of_eq ?_ ?_ (by simp [ingestedOn, ht]) rfl
    · cases hn : s.normalizers.get? p.track with
      | none => rw [(ingest_of_unknown hn).1]
      | some n => rw [(ingest_of_known hn).1, Table.get?_insert, if_neg (Ne.symm ht)]
    · cases hn : s.normalizers.get? p.track with
      | none => rw [(ingest_of_unknown hn).2.1]
      | some n =>
        have hothers : (n.normalizeAll [p]).1.filter (·.track = t) = [] := by
          refine List.filter_eq_nil_iff.2 fun q hq => ?_
          simpa [Normalizer.track_of_mem_normalizeAll hq] using ht
        rw [(ingest_of_known hn).2.1, TrackSet.queue?_foldl_enqueue, hothers]
        simp

/-- **What one operation does to the account of a track.** A declaration of the track starts it
anew, a removal ends it, and every other operation continues it. -/
lemma accounted_perform (hd : s.Accounted t d) (hs : s.feed.tracks.Filed) (op : Op) :
    (s.perform op).2.Accounted t (Event.extend t d ⟨op, (s.perform op).1⟩) := by
  cases op with
  | addTrack info =>
    obtain ⟨hn, htracks⟩ := s.addTrack_eq info t
    have hq := s.feed.tracks.queue?_create info.track info.timebase t
    rw [← htracks] at hq
    by_cases ht : info.track = t
    · rw [if_pos ht.symm] at hn hq
      simp only [Event.extend, if_pos ht]
      exact ⟨hn, _, hq, rfl, rfl⟩
    · rw [if_neg (Ne.symm ht)] at hn hq
      simp only [Event.extend, if_neg ht]
      exact hd.continues (.of_eq hn hq rfl rfl)
  | removeTrack u =>
    obtain ⟨hn, htracks⟩ := s.removeTrack_eq u t
    have hq := s.feed.tracks.queue?_remove u t
    rw [← htracks] at hq
    by_cases ht : u = t
    · rw [if_pos ht.symm] at hn hq
      simp only [Event.extend, if_pos ht]
      exact ⟨hn, hq⟩
    · rw [if_neg (Ne.symm ht)] at hn hq
      simp only [Event.extend, if_neg ht]
      exact hd.continues (.of_eq hn hq rfl rfl)
  | ingest p => exact hd.continues (continues_ingest s t p)
  | _ => exact hd.continues ((consumes_perform s rfl).continues hs rfl)

/-- Whatever is done to a stream, every packet is in the queue of its track. -/
lemma filed_perform (hs : s.feed.tracks.Filed) (op : Op) : (s.perform op).2.feed.tracks.Filed := by
  cases op with
  | addTrack info =>
    show (s.addTrack info).1.feed.tracks.Filed
    rw [(s.addTrack_eq info info.track).2]
    exact hs.create _ _
  | removeTrack u =>
    show (s.removeTrack u).feed.tracks.Filed
    rw [(s.removeTrack_eq u u).2]
    exact hs.remove _
  | ingest p =>
    show (s.ingest p).stream.feed.tracks.Filed
    cases hn : s.normalizers.get? p.track with
    | none =>
      rw [(ingest_of_unknown hn).2.1]
      exact hs
    | some n =>
      rw [(ingest_of_known hn).2.1]
      exact hs.foldl_enqueue _
  | _ => exact (consumes_perform s rfl).1.filed hs

/-! ## What a history does to the account of a track -/

lemma history_append (s : Stream) (as bs : List Op) :
    s.history (as ++ bs) =
      ((s.history as).1 ++ ((s.history as).2.history bs).1, ((s.history as).2.history bs).2) := by
  induction as generalizing s with
  | nil => rfl
  | cons a as ih => simp only [List.cons_append, history, ih]

/-- Declaring tracks one after another. -/
lemma history_addTrack (s : Stream) (infos : List TrackInfo) :
    s.history (infos.map .addTrack) =
      (infos.map fun info => ⟨.addTrack info, []⟩, (s.addTracks infos).1) := by
  induction infos generalizing s with
  | nil => rfl
  | cons info infos ih => simp only [List.map_cons, history, perform, ih, addTracks]

/-- A stream is created without tracks, and its first tracks are declared like the later ones. -/
lemma historyOf_eq (key : StreamKey) (infos : List TrackInfo) (ops : List Op) :
    historyOf key infos ops = history { key } (infos.map .addTrack ++ ops) := by
  rw [history_append, history_addTrack]
  rfl

/-- **Whatever is done to a stream, the account of every track holds.**

**Proof sketch.** Induction on the operations, the last one at the end of the list; each continues
the account of the track, starts it anew or ends it (`accounted_perform`). The invariant that
carries it is that every packet is in the queue of its track, so that a release takes from the
queue of a track the packets of the track (`Releases.queue?_eq_some`). -/
lemma accounted_history (hnormalizers : ∀ t, s.normalizers.get? t = none)
    (hqueues : ∀ t, s.feed.tracks.queue? t = none) (ops : List Op) :
    (s.history ops).2.feed.tracks.Filed ∧
      ∀ t, (s.history ops).2.Accounted t (sinceDeclared t (s.history ops).1) := by
  induction ops using List.reverseRecOn with
  | nil =>
    refine ⟨fun t q hq => ?_, fun t => ⟨hnormalizers t, hqueues t⟩⟩
    have hnone := (hqueues t).symm.trans hq
    cases hnone
  | append_singleton ops op ih =>
    obtain ⟨hfiled, haccounted⟩ := ih
    rw [history_append]
    refine ⟨filed_perform hfiled op, fun t => ?_⟩
    have h := accounted_perform (haccounted t) hfiled op
    rwa [← sinceDeclared_concat] at h

/-- The account of every track holds from the creation of the stream on. -/
lemma accounted_historyOf (key : StreamKey) (infos : List TrackInfo) (ops : List Op)
    (t : TrackId) : (historyOf key infos ops).2.Accounted t
      (sinceDeclared t (historyOf key infos ops).1) := by
  rw [historyOf_eq]
  exact (accounted_history (fun _ => rfl) (fun _ => rfl) _).2 t

/-- A track is known to the stream exactly if a declaration of it is in force. -/
lemma Accounted.hasTrack_eq (h : s.Accounted t d) : s.hasTrack t = d.isSome := by
  have hqueue : s.hasTrack t = (s.feed.tracks.queue? t).isSome := rfl
  rcases d with _ | ⟨info, es⟩
  · rw [hqueue, h.2]
    rfl
  · obtain ⟨-, q, hq, -⟩ := h
    rw [hqueue, hq]
    rfl

/-- A packet is refused for its track exactly if the track is not declared. -/
lemma Accounted.unknownTrack_iff {p : Packet} {u : TrackId} (h : s.Accounted p.track d) :
    (s.ingest p).result = .error (.unknownTrack u) ↔ s.hasTrack p.track = false ∧ u = p.track := by
  have hhas := h.hasTrack_eq
  rcases d with _ | ⟨info, es⟩
  · rw [(ingest_of_unknown h.1).2.2, hhas]
    simp [eq_comm]
  · constructor
    · intro hresult
      exact absurd hresult ((ingest_of_known h.1).2.2 hhas u)
    · rintro ⟨hnot, -⟩
      rw [hnot] at hhas
      cases hhas

/-- **A stream is per-track normalization followed by per-track queues.** Take any history of a
stream and a track that is declared after it. The packets of the track that are released since its
last declaration, followed by those that still wait, are what the normalizer of the declaration
makes of the packets ingested on the track since then, in their order: no packet is lost,
duplicated or reordered within its track, and the packets of other tracks do not matter. A packet
is refused as one of an unknown track only if its track is not declared.

**Proof sketch.** The account of the track holds after every history (`accounted_history`); a packet
of a known track is queued on that same track (`ingest_of_known`). -/
theorem track_eq_normalizeAll (key : StreamKey) (infos : List TrackInfo) (ops : List Op)
    (t : TrackId) :
    let r := historyOf key infos ops
    (r.2.hasTrack t = true ↔ (sinceDeclared t r.1).isSome = true) ∧
    (∀ info since, sinceDeclared t r.1 = some (info, since) →
      r.2.normalizers.get? t =
          some ((Normalizer.ofInfo info).1.normalizeAll (ingestedOn t since)).2 ∧
        ∃ q, r.2.feed.tracks.queue? t = some q ∧
          releasedOn t since ++ q.packets =
            ((Normalizer.ofInfo info).1.normalizeAll (ingestedOn t since)).1) ∧
    ∀ p u, (r.2.ingest p).result = .error (.unknownTrack u) ↔
      r.2.hasTrack p.track = false ∧ u = p.track := by
  intro r
  have h : ∀ t, r.2.Accounted t (sinceDeclared t r.1) := by
    have hall := (accounted_history (s := { key }) (fun _ => rfl) (fun _ => rfl)
      (infos.map .addTrack ++ ops)).2
    rwa [← historyOf_eq] at hall
  refine ⟨?_, fun info since hd => ?_, fun p u => (h p.track).unknownTrack_iff⟩
  · rw [(h t).hasTrack_eq]
  · have ht := h t
    rw [hd] at ht
    obtain ⟨hn, q, hq, -, hpackets⟩ := ht
    exact ⟨hn, q, hq, hpackets⟩

/-- One of two tracks is declared again while a packet waits on it; its packets go back in time. -/
theorem track_eq_normalizeAll_redeclared :
    let info (t : TrackId) : TrackInfo := ⟨t, .millis, .opus, none⟩
    let infos := [info 7, info 3]
    let ops : List Op := [.ingest (.blank 7 1), .ingest (.blank 3 2), .addTrack (info 7),
      .ingest (.blank 7 5), .ingest (.blank 3 9), .ingest (.blank 7 4), .ingest (.blank 7 10),
      .drain]
    ∃ since q, sinceDeclared 7 (historyOf ⟨"live", "cam"⟩ infos ops).1 = some (info 7, since) ∧
      releasedOn 7 since = [.blank 7 5, .blank 7 4] ∧
      (historyOf ⟨"live", "cam"⟩ infos ops).2.feed.tracks.queue? 7 = some q ∧
      releasedOn 7 since ++ q.packets = [.blank 7 5, .blank 7 4, .blank 7 10] := by
  intro info infos ops
  obtain ⟨since, hsince, hreleased, hleft⟩ :
      ∃ since, sinceDeclared 7 (historyOf ⟨"live", "cam"⟩ infos ops).1 = some (info 7, since) ∧
        releasedOn 7 since = [.blank 7 5, .blank 7 4] ∧
        ((Normalizer.ofInfo (info 7)).1.normalizeAll (ingestedOn 7 since)).1 =
          [.blank 7 5, .blank 7 4, .blank 7 10] :=
    ⟨(historyOf ⟨"live", "cam"⟩ infos ops).1.drop 5, by decide, by decide, by decide⟩
  obtain ⟨-, q, hq, h⟩ :=
    (track_eq_normalizeAll ⟨"live", "cam"⟩ infos ops 7).2.1 (info 7) since hsince
  exact ⟨since, q, hsince, hreleased, hq, h.trans hleft⟩

end LiveMedia.Stream
