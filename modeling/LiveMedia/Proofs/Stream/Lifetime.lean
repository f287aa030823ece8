import LiveMedia.Stream
import Mathlib.Tactic.Lemma

set_option autoImplicit false

/-!
# The lifetime of a stream

A stream keeps its key, and is open until it is closed: neither its tracks nor its packets end it.

## Main results

* `LiveMedia.Stream.isClosed_create` — a new stream is open.
* `LiveMedia.Stream.ingest_keeps` — a packet.
-/

namespace LiveMedia

/-- Notices do not end a feed. -/
lemma Feed.closed_complete (c : Feed.Change) : c.complete.closed = c.feed.closed := by
  obtain ⟨f, ns⟩ := c
  unfold Change.complete
  induction ns generalizing f with
  | nil => rfl
  | cons n ns ih =>
    refine (ih (f.notify n)).trans ?_
    cases n <;> rfl

/-- A packet does not end a feed. -/
lemma Feed.closed_of_push? {f g : Feed} {p : Packet} (h : f.push? p = some g) :
    g.closed = f.closed := by
  obtain ⟨c, hc, rfl⟩ := Option.map_eq_some_iff.1 h
  obtain ⟨tracks, -, rfl⟩ := Option.map_eq_some_iff.1 hc
  exact Feed.closed_complete _

namespace Stream

variable (s : Stream)

/-! ## A new stream -/

/-- Declaring tracks does not end a stream. -/
lemma isClosed_addTracks (infos : List TrackInfo) :
    (s.addTracks infos).1.isClosed = s.isClosed := by
  induction infos generalizing s with
  | nil => rfl
  | cons info infos ih => exact (ih (s.addTrack info).1).trans (Feed.closed_complete _)

/-- A new stream is open. -/
lemma isClosed_create (key : StreamKey) (infos : List TrackInfo) :
    (create key infos).1.isClosed = false :=
  isClosed_addTracks { key } infos

/-! ## A packet -/

lemma enqueue_keeps (q : Packet) :
    (s.enqueue q).stream.key = s.key ∧ (s.enqueue q).stream.isClosed = s.isClosed := by
  unfold enqueue
  split
  · rename_i f h
    exact ⟨rfl, Feed.closed_of_push? h⟩
  · exact ⟨rfl, rfl⟩

/-- A packet changes neither the key nor the end of a stream, whatever comes of it. -/
lemma ingest_keeps (p : Packet) :
    (s.ingest p).stream.key = s.key ∧ (s.ingest p).stream.isClosed = s.isClosed := by
  unfold ingest
  dsimp only
  split
  · exact ⟨rfl, rfl⟩
  · split
    · exact enqueue_keeps _ _
    · exact ⟨rfl, rfl⟩
    · exact ⟨rfl, rfl⟩
    · exact ⟨rfl, rfl⟩

end Stream

end LiveMedia
