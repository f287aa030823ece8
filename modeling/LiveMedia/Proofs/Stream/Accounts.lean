import LiveMedia.Proofs.Record
import LiveMedia.Proofs.Stream.History
import LiveMedia.Proofs.Table
import LiveMedia.Proofs.Track.Configuration
import Mathlib.Algebra.BigOperators.Group.List.Basic

set_option autoImplicit false

/-!
# The accounts of a stream

Every packet that is handed to a stream is accounted for: it is queued, it could not be converted,
it was dropped before its configuration, it was a sequence header that was absorbed, or its track is
not declared. Every packet that is queued is released, waits, or is gone with its track.

## Main definitions

* `LiveMedia.Stream.Charge`, `LiveMedia.Stream.charge` — what an operation does to the packets of a
  stream.
* `LiveMedia.Stream.Book`, `LiveMedia.Stream.book` — what a stream has counted, and what waits on
  it.
* `LiveMedia.Stream.Book.Balanced` — the counts agree with what has been done.

## Main results

* `LiveMedia.TrackSet.Releases.queued_add` — what is released does not wait any more.
* `LiveMedia.Stream.tallied_ingest` — what is counted of one packet.
* `LiveMedia.Stream.Book.Balanced.perform` — the book stays balanced with every operation.
-/

namespace LiveMedia

/-! ## The packets that wait -/

namespace TrackSet

variable {s s' : TrackSet} {t : TrackId} {q : TrackQueue} {p : Packet} {ps : List Packet}

/-- The packets that wait on a track. -/
def waitingOn (s : TrackSet) (t : TrackId) : List Packet :=
  ((s.queue? t).map TrackQueue.packets).getD []

lemma waitingOn_eq (hq : s.queue? t = some q) : s.waitingOn t = q.packets := by
  simp [waitingOn, hq]

/-- The packets of all tracks wait on the one or on the others. -/
lemma queued_remove_add (s : TrackSet) (t : TrackId) :
    (s.remove t).queued + (s.waitingOn t).length = s.queued := by
  cases hq : s.queue? t with
  | none =>
    have hsame : s.remove t = s := congrArg TrackSet.mk (Table.erase_eq_self hq)
    simp [hsame, waitingOn, hq]
  | some q =>
    have hperm := (Table.perm_erase hq).map fun e => e.2.packets.length
    rw [queued_eq_sum s, hperm.sum_eq, List.map_cons, List.sum_cons, queued_eq_sum, waitingOn_eq hq,
      Nat.add_comm]
    rfl

/-- The packets of a queue that is set wait with those of the other tracks. -/
lemma queued_insert (s : TrackSet) (t : TrackId) (q : TrackQueue) :
    (⟨s.tracks.insert t q⟩ : TrackSet).queued = (s.remove t).queued + q.packets.length := by
  have hperm := (Table.perm_insert s.tracks t q).map fun e => e.2.packets.length
  rw [queued_eq_sum, hperm.sum_eq, List.map_cons, List.sum_cons, queued_eq_sum, Nat.add_comm]
  rfl

/-- The packets of a track that is declared anew are gone. -/
lemma queued_create_add (s : TrackSet) (t : TrackId) (tb : Timebase) :
    (s.create t tb).queued + (s.waitingOn t).length = s.queued := by
  have hrest := s.queued_remove_add t
  have hcreated : (s.create t tb).queued = (s.remove t).queued + 0 := s.queued_insert t _
  omega

/-- One more packet waits if its track is declared. -/
lemma queued_enqueue (s : TrackSet) (p : Packet) :
    (s.enqueue p).queued = s.queued + if s.contains p.track then 1 else 0 := by
  have hcontains : s.contains p.track = (s.queue? p.track).isSome := rfl
  cases hq : s.queue? p.track with
  | none =>
    have hsame : s.enqueue p = s := congrArg TrackSet.mk (Table.modify_eq_self hq _)
    simp [hsame, hcontains, hq]
  | some q =>
    have hrest := s.queued_remove_add p.track
    rw [waitingOn_eq hq] at hrest
    rw [enqueue, Table.modify_eq_insert hq, queued_insert, hcontains, hq,
      TrackQueue.push_packets, List.length_append, List.length_singleton, Option.isSome_some,
      if_pos rfl]
    omega

/-- One packet less waits once the first one of a track is taken. -/
lemma queued_dequeue_add (hq : s.queue? t = some q) (hp : q.packets = p :: ps) :
    (s.dequeue t).queued + 1 = s.queued := by
  have hrest := s.queued_remove_add t
  rw [waitingOn_eq hq, hp, List.length_cons] at hrest
  rw [dequeue, Table.modify_eq_insert hq, queued_insert, TrackQueue.tail_packets, hp,
    List.tail_cons]
  omega

/-- What is released does not wait any more. -/
lemma Releases.queued_add (h : Releases s ps s') : s'.queued + ps.length = s.queued := by
  induction h with
  | nil s => rfl
  | cons hpop _ ih =>
    obtain ⟨t, q, rest, hq, hp, rfl⟩ := exists_of_pop? hpop
    have hfirst := queued_dequeue_add hq hp
    rw [List.length_cons]
    omega

end TrackSet

/-! ## Packets that are not queued -/

namespace Normalizer

variable {p q : Packet} {n : Normalizer}

/-- Only sequence headers are absorbed. -/
lemma kind_of_normalize_eq_none (h : (outcome (normalize p) n).1 = .ok none) :
    p.kind = .sequenceHeader := by
  unfold normalize at h
  cases hkind : p.kind with
  | sequenceHeader => rfl
  | endOfSequence =>
    rw [hkind] at h
    cases h
  | raw =>
    rw [hkind, outcome_map] at h
    cases hr : (outcome (normalizeUnit p) n).1 <;> rw [hr] at h <;> cases h

/-- Sequence headers are not queued. -/
lemma kind_of_normalize_eq_some (h : (outcome (normalize p) n).1 = .ok (some q)) :
    p.kind ≠ .sequenceHeader := by
  intro hkind
  rcases outcome_normalize_header hkind n with ⟨-, hout⟩ | ⟨-, e, -, hout⟩ <;> rw [hout] at h <;>
    cases h

/-- A sequence header does not lack a configuration. -/
lemma kind_of_missingConfig (h : (outcome (normalize p) n).1 = .error .missingConfig) :
    p.kind ≠ .sequenceHeader := by
  intro hkind
  rcases outcome_normalize_header hkind n with ⟨-, hout⟩ | ⟨-, e, hmalformed, hout⟩ <;>
    rw [hout] at h <;> cases h
  exact hmalformed

end Normalizer

namespace Stream

/-! ## Books -/

/-- What an operation does to the packets of a stream. -/
structure Charge where
  /-- The packet that is handed in, and the answer to it. -/
  handed : Option (Packet × Except StreamError Unit) := none
  released : List Packet := []
  /-- The packets that are gone with the queue of their track. -/
  discarded : List Packet := []

/-- What an operation does to the packets of the stream. -/
def charge (s : Stream) (op : Op) : Charge where
  handed :=
    match op with
    | .ingest p => some (p, (s.ingest p).result)
    | _ => none
  released := (s.perform op).1
  discarded :=
    match op with
    | .addTrack info => s.feed.tracks.waitingOn info.track
    | .removeTrack t => s.feed.tracks.waitingOn t
    | _ => []

/-- The packets handed in, with the answers. -/
def handed (cs : List Charge) : List (Packet × Except StreamError Unit) :=
  cs.flatMap fun c => c.handed.toList

/-- The packets that consumers have got. -/
def released (cs : List Charge) : List Packet :=
  cs.flatMap Charge.released

/-- The packets that are gone with the queues of their tracks. -/
def discarded (cs : List Charge) : List Packet :=
  cs.flatMap Charge.discarded

/-- The packet is a sequence header that has not been refused. -/
def isAbsorbed : Packet × Except StreamError Unit → Bool
  | (p, .ok ()) => p.kind == .sequenceHeader
  | (_, .error _) => false

/-- The track of the packet is not declared. -/
def isUnknown : Packet × Except StreamError Unit → Bool
  | (_, .error (.unknownTrack _)) => true
  | (_, .error (.media _)) | (_, .ok ()) => false

/-- What a stream has counted, and the number of packets that wait on it. -/
structure Book where
  counters : StreamCounters := {}
  queued : Nat := 0

/-- What the stream has counted, and the number of packets that wait on it. -/
def book (s : Stream) : Book :=
  ⟨s.counters, s.feed.tracks.queued⟩

namespace Book

/-- The book agrees with what has been done to the packets. -/
structure Balanced (b : Book) (cs : List Charge) : Prop where
  packetsIn : b.counters.packetsIn = (handed cs).length
  parted : b.counters.packetsIn = b.counters.packetsOut + b.counters.conversionErrors +
    b.counters.droppedBeforeConfig + (handed cs).countP isAbsorbed + (handed cs).countP isUnknown
  packetsOut : b.counters.packetsOut =
    (released cs).length + b.queued + (discarded cs).length

/-- What an operation changes in a book. -/
structure Adds (b : Book) (c : Charge) (b' : Book) : Prop where
  packetsIn : b'.counters.packetsIn = b.counters.packetsIn + c.handed.toList.length
  parted : b'.counters.packetsOut + b'.counters.conversionErrors +
      b'.counters.droppedBeforeConfig + c.handed.toList.countP isAbsorbed +
      c.handed.toList.countP isUnknown =
    b.counters.packetsOut + b.counters.conversionErrors + b.counters.droppedBeforeConfig +
      c.handed.toList.length
  packetsOut : b'.queued + c.released.length + c.discarded.length + b.counters.packetsOut =
    b.queued + b'.counters.packetsOut

variable {b b' : Book} {c : Charge} {cs : List Charge}

lemma balanced_nil : Balanced {} [] :=
  ⟨rfl, rfl, rfl⟩

lemma Balanced.concat (h : b.Balanced cs) (hadds : b.Adds c b') : b'.Balanced (cs ++ [c]) := by
  have hin := h.packetsIn
  have hparted := h.parted
  have hout := h.packetsOut
  have hin' := hadds.packetsIn
  have hparted' := hadds.parted
  have hout' := hadds.packetsOut
  constructor <;>
    simp only [handed, released, discarded, List.flatMap_append, List.flatMap_cons,
      List.flatMap_nil, List.append_nil, List.length_append, List.countP_append] at * <;>
    omega

/-- An operation that brings no packet counts none. -/
lemma adds_of_counters_eq (hcounters : b'.counters = b.counters) (hhanded : c.handed = none)
    (hqueued : b'.queued + c.released.length + c.discarded.length = b.queued) :
    b.Adds c b' := by
  constructor
  · rw [hcounters, hhanded]
    rfl
  · rw [hcounters, hhanded]
    rfl
  · rw [hcounters, hqueued]

end Book

/-! ## What an operation adds to the book -/

variable {s : Stream}

/-- A packet that is queued is counted if its track has a queue. -/
lemma counters_enqueue (s : Stream) (q : Packet) :
    (s.enqueue q).stream.counters =
      if s.hasTrack q.track then s.counters.packetOut q.keyframe else s.counters := by
  have hresult := (s.enqueue_eq q).2.2
  unfold enqueue at hresult ⊢
  cases hpush : s.feed.push? q with
  | none =>
    simp only [hpush] at hresult
    split at hresult
    · cases hresult
    · next hno => rw [if_neg hno]
  | some f =>
    simp only [hpush] at hresult
    split at hresult
    · next hyes => rw [if_pos hyes]
    · cases hresult

/-- A packet that is normalized is queued and counted, or it is one of an unknown track. -/
lemma adds_enqueue {s₀ : Stream} {p q : Packet} (hcounters : s.counters = s₀.counters.packetIn)
    (hfeed : s.feed = s₀.feed) (hkind : p.kind ≠ .sequenceHeader) :
    s₀.book.Adds { handed := some (p, (s.enqueue q).result) } (s.enqueue q).stream.book := by
  obtain ⟨-, htracks, hresult⟩ := s.enqueue_eq q
  have hqueued := s.feed.tracks.queued_enqueue q
  have hcounted := s.counters_enqueue q
  rw [← htracks, hfeed] at hqueued
  rw [hcounters] at hcounted
  by_cases hhas : s.hasTrack q.track = true
  · have hcontains : s₀.feed.tracks.contains q.track = true := hfeed ▸ hhas
    rw [if_pos hcontains] at hqueued
    rw [if_pos hhas] at hresult hcounted
    constructor <;> simp [book, isAbsorbed, isUnknown, StreamCounters.packetIn,
      StreamCounters.packetOut, hkind, hqueued, hresult, hcounted] <;> omega
  · have hcontains : ¬s₀.feed.tracks.contains q.track = true := hfeed ▸ hhas
    rw [if_neg hcontains] at hqueued
    rw [if_neg hhas] at hresult hcounted
    constructor <;> simp [book, isAbsorbed, isUnknown, StreamCounters.packetIn, hqueued, hresult,
      hcounted]

/-- **Every packet is counted once.** It is queued, it could not be converted, it was dropped before
its configuration, it is a header that is absorbed, or its track is not declared. -/
lemma adds_ingest (s : Stream) (p : Packet) :
    s.book.Adds (s.charge (.ingest p)) (s.ingest p).stream.book := by
  have hcharge : s.charge (.ingest p) = { handed := some (p, (s.ingest p).result) } := rfl
  rw [hcharge]
  cases hn : s.normalizers.get? p.track with
  | none =>
    simp only [ingest, hn]
    constructor <;> simp [book, isAbsorbed, isUnknown, StreamCounters.packetIn]
  | some n =>
    have hrun : (Normalizer.normalize p n).run = outcome (Normalizer.normalize p) n := rfl
    rcases hout : outcome (Normalizer.normalize p) n with ⟨e | _ | q, n'⟩
    · cases e with
      | missingConfig =>
        have hkind := Normalizer.kind_of_missingConfig (congrArg Prod.fst hout)
        simp only [ingest, hn, hrun, hout, dropBeforeConfig]
        constructor <;> simp [book, isAbsorbed, isUnknown, StreamCounters.packetIn,
          StreamCounters.dropBeforeConfig, hkind]
        omega
      | _ =>
        simp only [ingest, hn, hrun, hout]
        constructor <;> simp [book, isAbsorbed, isUnknown, StreamCounters.packetIn,
          StreamCounters.conversionError]
        omega
    · have hkind := Normalizer.kind_of_normalize_eq_none (congrArg Prod.fst hout)
      simp only [ingest, hn, hrun, hout]
      constructor <;> simp [book, isAbsorbed, isUnknown, StreamCounters.packetIn, hkind]
    · simp only [ingest, hn, hrun, hout]
      exact adds_enqueue rfl rfl (Normalizer.kind_of_normalize_eq_some (congrArg Prod.fst hout))

/-- The packets of a track that is declared anew are gone. -/
lemma queued_addTrack_add (s : Stream) (info : TrackInfo) :
    (s.addTrack info).1.feed.tracks.queued + (s.feed.tracks.waitingOn info.track).length =
      s.feed.tracks.queued := by
  rw [(s.addTrack_eq info info.track).2]
  exact TrackSet.queued_create_add _ _ _

/-- The packets of a track that is removed are gone. -/
lemma queued_removeTrack_add (s : Stream) (t : TrackId) :
    (s.removeTrack t).feed.tracks.queued + (s.feed.tracks.waitingOn t).length =
      s.feed.tracks.queued := by
  rw [(s.removeTrack_eq t t).2]
  exact TrackSet.queued_remove_add _ _

/-- Whatever brings no packet counts none. -/
lemma counters_perform {op : Op} (hop : op.consumes = true) :
    (s.perform op).2.counters = s.counters := by
  cases op with
  | addTrack info => cases hop
  | removeTrack t => cases hop
  | ingest p => cases hop
  | pop =>
    simp only [perform, pop?]
    split <;> rfl
  | _ => rfl

/-- **What an operation does to the packets of a stream it adds to the book.** -/
lemma adds_perform (s : Stream) (op : Op) :
    s.book.Adds (s.charge op) (s.perform op).2.book := by
  cases op with
  | ingest p => exact s.adds_ingest p
  | addTrack info => exact Book.adds_of_counters_eq rfl rfl (s.queued_addTrack_add info)
  | removeTrack t => exact Book.adds_of_counters_eq rfl rfl (s.queued_removeTrack_add t)
  | _ =>
    exact Book.adds_of_counters_eq (counters_perform rfl) rfl (s.consumes_perform rfl).1.queued_add

/-- **The book of a stream stays balanced**, whatever is done to the stream. -/
lemma Book.Balanced.perform {cs : List Charge} (h : s.book.Balanced cs) (op : Op) :
    (s.perform op).2.book.Balanced (cs ++ [s.charge op]) :=
  h.concat (s.adds_perform op)

/-! ## Streams that come and go -/

/-- A stream starts with an empty book. -/
lemma book_create (key : StreamKey) (infos : List TrackInfo) :
    (create key infos).1.book = {} := by
  suffices h : ∀ s : Stream, s.book = {} → (s.addTracks infos).1.book = {} from h { key } rfl
  induction infos with
  | nil => exact fun s hs => hs
  | cons info infos ih =>
    intro s hs
    refine ih (s.addTrack info).1 ?_
    have hcounters : s.counters = {} := congrArg Book.counters hs
    have hempty : s.feed.tracks.queued = 0 := congrArg Book.queued hs
    have hqueued : (s.addTrack info).1.feed.tracks.queued = 0 := by
      have hadd := s.queued_addTrack_add info
      omega
    rw [book, hqueued]
    exact congrArg (Book.mk · 0) hcounters

/-- A stream that is closed keeps its book. -/
lemma book_close (s : Stream) : s.close.book = s.book := by
  have htracks : s.close.feed.tracks = s.feed.tracks := Feed.tracks_complete _
  rw [book, book, htracks]
  rfl

end Stream

end LiveMedia
