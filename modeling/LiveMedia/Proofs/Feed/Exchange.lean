import LiveMedia.Feed.Consumer
import LiveMedia.Proofs.Feed.Signal
import LiveMedia.Proofs.Track.Run
import Mathlib.Data.List.Induction

set_option autoImplicit false

/-!
# Producers and a consumer in turns

The calls of producers and the steps of one consumer take turns in any order. A producer changes the
feed and gives the notices of the change one by one; between any two of its steps the others may go
on. The consumer asks for one packet after another, or gives up while it is parked. Each call of the
consumer ends in two steps, so that notices may still arrive while it drops its waiter.

Whoever changes the feed so that a parked consumer has something to go on for owes it a notice. So a
consumer that is asleep while nobody owes a notice has missed nothing.

## Main definitions

* `LiveMedia.Exchange` — the feed, the notices that are owed, and where the consumer is.
* `LiveMedia.Exchange.Move`, `LiveMedia.Exchange.run` — what may happen next, and one after another.
* `LiveMedia.Exchange.Watchful` — a consumer that sleeps is owed a notice if it has reason to go on.

## Main results

* `LiveMedia.Exchange.consume_of_step` — the consumer takes the steps of `LiveMedia.Feed.step`.
* `LiveMedia.Exchange.watchful_run` — the invariant of every run.
* `LiveMedia.Exchange.Watchful.pop?_eq_none_of_parked` — a consumer that sleeps has missed nothing.
-/

namespace LiveMedia

/-- Where a consumer is. -/
inductive Exchange.Place where
  /-- Asking for a packet. -/
  | asking (phase : Feed.Phase)
  /-- It knows its answer and is about to drop its waiter. -/
  | leaving (answer : Option Packet)
  deriving DecidableEq, Repr

/-- A feed between producers and one consumer. -/
structure Exchange where
  feed : Feed := {}
  /-- For each call of a producer, the notices that it still has to give. -/
  owed : List (List Feed.Notice) := []
  place : Exchange.Place := .asking .register
  /-- The answers that the consumer got, in order. -/
  answers : List (Option Packet) := []

namespace Exchange

/-- What may happen next. -/
inductive Move where
  /-- A producer declares a track. -/
  | create (track : TrackId) (timebase : Timebase)
  /-- A producer removes a track. -/
  | remove (track : TrackId)
  /-- A producer queues a packet. -/
  | push (p : Packet)
  /-- A producer ends the feed. -/
  | close
  /-- The `i`-th call of a producer gives its next notice. -/
  | notify (i : Nat)
  /-- The consumer takes its next step. -/
  | consume
  /-- The time of a parked consumer is up. -/
  | giveUp
  deriving DecidableEq, Repr

/-! ## Moves -/

/-- A producer has changed the feed and owes the notices. -/
def begin (s : Exchange) (c : Feed.Change) : Exchange :=
  { s with feed := c.feed, owed := s.owed ++ [c.notices] }

/-- A producer gives the first of the notices that it owes. -/
def notify (s : Exchange) (i : Nat) : Exchange :=
  match s.owed[i]? with
  | some (notice :: rest) => { s with feed := s.feed.notify notice, owed := s.owed.set i rest }
  | _ => s

/-- The next step of the consumer `w`. -/
def consume (w : WaiterId) (s : Exchange) : Exchange :=
  match s.place with
  | .asking .register =>
    { s with
      feed := { s.feed with signal := s.feed.signal.register w }
      place := .asking .look }
  | .asking .look =>
    match s.feed.pop? with
    | some (p, feed) => { s with feed, place := .leaving (some p) }
    | none => { s with place := .asking .check }
  | .asking .check => { s with place := if s.feed.closed then .leaving none else .asking .wait }
  | .asking .wait =>
    if s.feed.signal.isWoken w then
      { s with
        feed := { s.feed with signal := s.feed.signal.resume w }
        place := .asking .register }
    else
      s
  | .leaving answer =>
    { s with
      feed := s.feed.cancel w
      place := .asking .register
      answers := s.answers ++ [answer] }

/-- A parked consumer gets no packet in time. -/
def giveUp (w : WaiterId) (s : Exchange) : Exchange :=
  if s.place = .asking .wait then
    { s with
      feed := s.feed.cancel w
      place := .asking .register
      answers := s.answers ++ [none] }
  else
    s

/-- One move; a packet of an unknown track changes nothing. -/
def move (w : WaiterId) (s : Exchange) : Move → Exchange
  | .create track timebase => s.begin (s.feed.creating track timebase)
  | .remove track => s.begin (s.feed.removing track)
  | .push p => (s.feed.pushing? p).elim s s.begin
  | .close => s.begin s.feed.closing
  | .notify i => s.notify i
  | .consume => s.consume w
  | .giveUp => s.giveUp w

/-- One move after another. -/
def run (w : WaiterId) (s : Exchange) (moves : List Move) : Exchange :=
  moves.foldl (move w) s

/-- No call of a producer is in progress. -/
def Idle (s : Exchange) : Prop :=
  ∀ notices ∈ s.owed, notices = []

instance (s : Exchange) : Decidable s.Idle :=
  inferInstanceAs (Decidable (∀ notices ∈ s.owed, notices = []))

/-- The consumer is parked and has not been woken. -/
def Parked (w : WaiterId) (s : Exchange) : Prop :=
  s.place = .asking .wait ∧ s.feed.signal.isWoken w = false

instance (w : WaiterId) (s : Exchange) : Decidable (s.Parked w) :=
  inferInstanceAs (Decidable (_ ∧ _))

/-! ## The steps of the consumer -/

section Steps

variable {w : WaiterId} {s : Exchange} {feed : Feed} {phase : Feed.Phase} {p : Packet}
  {answer : Option Packet}

lemma consume_register (hplace : s.place = .asking .register) : s.consume w = { s with
      feed := { s.feed with signal := s.feed.signal.register w }, place := .asking .look } := by
  simp only [consume, hplace]

lemma consume_look_some (hplace : s.place = .asking .look) (hpop : s.feed.pop? = some (p, feed)) :
    s.consume w = { s with feed, place := .leaving (some p) } := by
  simp only [consume, hplace, hpop]

lemma consume_look_none (hplace : s.place = .asking .look) (hpop : s.feed.pop? = none) :
    s.consume w = { s with place := .asking .check } := by
  simp only [consume, hplace, hpop]

lemma consume_check_closed (hplace : s.place = .asking .check) (hclosed : s.feed.closed = true) :
    s.consume w = { s with place := .leaving none } := by
  simp only [consume, hplace, hclosed, if_true]

lemma consume_check_open (hplace : s.place = .asking .check) (hopen : s.feed.closed = false) :
    s.consume w = { s with place := .asking .wait } := by
  simp [consume, hplace, hopen]

lemma consume_wait_awake (hplace : s.place = .asking .wait)
    (hwoken : s.feed.signal.isWoken w = true) : s.consume w = { s with
      feed := { s.feed with signal := s.feed.signal.resume w }, place := .asking .register } := by
  simp only [consume, hplace, hwoken, if_true]

lemma consume_parked (h : s.Parked w) : s.consume w = s := by
  simp [consume, h.1, h.2]

lemma consume_leaving (hplace : s.place = .leaving answer) : s.consume w = { s with
      feed := s.feed.cancel w, place := .asking .register, answers := s.answers ++ [answer] } := by
  simp only [consume, hplace]

/-- **The consumer takes the steps of `Feed.step`**, but for its last one, which is taken in two.

**Proof sketch.** By cases on the phase. An answer is known after the first step and the waiter is
dropped in the second, as `Feed.step` does at once. -/
theorem consume_of_step (hplace : s.place = .asking phase) :
    match s.feed.step w phase with
    | (feed, .next next) => s.consume w = { s with feed, place := .asking next }
    | (feed, .packet p) => (s.consume w).consume w =
        { s with feed, place := .asking .register, answers := s.answers ++ [some p] }
    | (feed, .ended) => (s.consume w).consume w =
        { s with feed, place := .asking .register, answers := s.answers ++ [none] }
    | (_, .blocked) => s.consume w = s := by
  cases phase with
  | register => exact consume_register hplace
  | look =>
    simp only [Feed.step]
    cases hpop : s.feed.pop? with
    | none => exact consume_look_none hplace hpop
    | some r =>
      show (s.consume w).consume w = _
      rw [consume_look_some hplace hpop, consume_leaving rfl]
  | check =>
    simp only [Feed.step]
    cases hclosed : s.feed.closed with
    | false => exact consume_check_open hplace hclosed
    | true =>
      show (s.consume w).consume w = _
      rw [consume_check_closed hplace hclosed, consume_leaving rfl]
  | wait =>
    simp only [Feed.step]
    cases hwoken : s.feed.signal.isWoken w with
    | true => exact consume_wait_awake hplace hwoken
    | false => exact consume_parked ⟨hplace, hwoken⟩

/-- What a step of the consumer may be. -/
inductive Consumes (w : WaiterId) (s : Exchange) : Exchange → Prop
  | registers (hplace : s.place = .asking .register) : Consumes w s { s with
      feed := { s.feed with signal := s.feed.signal.register w }, place := .asking .look }
  | finds {p : Packet} {feed : Feed} (hplace : s.place = .asking .look)
      (hpop : s.feed.pop? = some (p, feed)) :
      Consumes w s { s with feed, place := .leaving (some p) }
  | misses (hplace : s.place = .asking .look) (hpop : s.feed.pop? = none) :
      Consumes w s { s with place := .asking .check }
  | ends (hplace : s.place = .asking .check) (hclosed : s.feed.closed = true) :
      Consumes w s { s with place := .leaving none }
  | parks (hplace : s.place = .asking .check) (hopen : s.feed.closed = false) :
      Consumes w s { s with place := .asking .wait }
  | wakes (hplace : s.place = .asking .wait) (hwoken : s.feed.signal.isWoken w = true) :
      Consumes w s { s with
        feed := { s.feed with signal := s.feed.signal.resume w }, place := .asking .register }
  | sleeps (h : s.Parked w) : Consumes w s s
  | leaves {answer : Option Packet} (hplace : s.place = .leaving answer) : Consumes w s { s with
      feed := s.feed.cancel w, place := .asking .register, answers := s.answers ++ [answer] }

/-- The step of the consumer is one of these. -/
lemma consumes (w : WaiterId) (s : Exchange) : Consumes w s (s.consume w) := by
  rcases hplace : s.place with (_ | _ | _ | _) | answer
  case asking.register =>
    rw [consume_register hplace]
    exact .registers hplace
  case asking.look =>
    cases hpop : s.feed.pop? with
    | none =>
      rw [consume_look_none hplace hpop]
      exact .misses hplace hpop
    | some r =>
      rw [consume_look_some hplace hpop]
      exact .finds hplace hpop
  case asking.check =>
    cases hclosed : s.feed.closed with
    | true =>
      rw [consume_check_closed hplace hclosed]
      exact .ends hplace hclosed
    | false =>
      rw [consume_check_open hplace hclosed]
      exact .parks hplace hclosed
  case asking.wait =>
    cases hwoken : s.feed.signal.isWoken w with
    | true =>
      rw [consume_wait_awake hplace hwoken]
      exact .wakes hplace hwoken
    | false =>
      rw [consume_parked ⟨hplace, hwoken⟩]
      exact .sleeps ⟨hplace, hwoken⟩
  case leaving =>
    rw [consume_leaving hplace]
    exact .leaves hplace

end Steps

/-! ## Changes of producers -/

section Changes

variable {f : Feed} {c : Feed.Change} {p : Packet}

/-- A change leaves the signal alone, and one that gives no notice gives no reason to go on. -/
structure Announced (f : Feed) (c : Feed.Change) : Prop where
  signal : c.feed.signal = f.signal
  closed : f.closed = true → c.feed.closed = true
  silent : c.notices = [] → c.feed.closed = f.closed ∧
    (c.feed.pop?.isSome = true → f.pop?.isSome = true)

lemma isSome_pop?_iff (f : Feed) : f.pop?.isSome = true ↔ f.tracks.allReady = true := by
  rw [Feed.pop?, Option.isSome_map, ← Bool.not_eq_false, ← Bool.not_eq_false,
    Option.isSome_eq_false_iff, Option.isNone_iff_eq_none, TrackSet.pop?_eq_none_iff]

lemma announced_creating (f : Feed) (track : TrackId) (timebase : Timebase) :
    Announced f (f.creating track timebase) :=
  ⟨rfl, id, nofun⟩

/-- Removing a track that is not there changes nothing. -/
lemma announced_removing (f : Feed) (track : TrackId) : Announced f (f.removing track) := by
  refine ⟨rfl, id, fun hsilent => ⟨rfl, ?_⟩⟩
  have hmissing : f.tracks.contains track = false := by
    simpa [Feed.removing] using hsilent
  have hsame : f.tracks.remove track = f.tracks := by
    apply TrackSet.ext_queue?
    intro t
    rw [TrackSet.queue?_remove]
    by_cases ht : t = track
    · rw [if_pos ht, ht]
      exact (Option.isSome_eq_false_iff.1 hmissing |> Option.isNone_iff_eq_none.1).symm
    · rw [if_neg ht]
  show (Feed.pop? { f with tracks := f.tracks.remove track }).isSome = true → _
  rw [hsame]
  exact id

/-- A packet that makes no track set ready need not be announced. -/
lemma announced_pushing (h : f.pushing? p = some c) : Announced f c := by
  obtain ⟨tracks, -, rfl⟩ := Option.map_eq_some_iff.1 h
  refine ⟨rfl, id, fun hsilent => ⟨rfl, fun hpop => ?_⟩⟩
  rw [isSome_pop?_iff] at hpop
  simp [hpop] at hsilent

lemma announced_closing (f : Feed) : Announced f f.closing :=
  ⟨rfl, fun _ => rfl, nofun⟩

end Changes

/-! ## No wake-up is lost -/

/-- A producer still has to give a notice. -/
def Owes (s : Exchange) : Prop :=
  ∃ notices ∈ s.owed, notices ≠ []

lemma Idle.not_owes {s : Exchange} (h : s.Idle) : ¬s.Owes := by
  rintro ⟨notices, hmem, hne⟩
  exact hne (h notices hmem)

/-- The consumer has a waiter unless it is about to register one. Once it has found no packet, it
sleeps through a packet only if a notice is owed; and once it has found the feed open, it sleeps
through the end only if a notice is owed. -/
structure Watchful (w : WaiterId) (s : Exchange) : Prop where
  vacant : s.place = .asking .register → s.feed.signal.Vacant
  registered : s.place ≠ .asking .register → s.feed.signal.Registered w
  check : s.place = .asking .check → s.feed.signal.Asleep w → s.feed.pop?.isSome = true → s.Owes
  wait : s.place = .asking .wait → s.feed.signal.Asleep w →
    s.feed.pop?.isSome = true ∨ s.feed.closed = true → s.Owes

section

variable {w : WaiterId} {s : Exchange} {f g : Feed} {c : Feed.Change} {p : Packet}

/-- A new feed, with a consumer that has not asked yet. -/
lemma watchful_start (w : WaiterId) : Watchful w {} :=
  ⟨fun _ => ⟨rfl, rfl⟩, fun h => absurd rfl h, nofun, nofun⟩

/-! ### Producers -/

lemma Owes.begin (h : s.Owes) (c : Feed.Change) : (s.begin c).Owes := by
  obtain ⟨notices, hmem, hne⟩ := h
  exact ⟨notices, List.mem_append_left _ hmem, hne⟩

lemma owes_begin (h : c.notices ≠ []) : (s.begin c).Owes :=
  ⟨c.notices, List.mem_append_right _ (List.mem_singleton_self _), h⟩

/-- A change that wakes nobody gives the consumer no reason to go on. -/
lemma Watchful.begin (h : s.Watchful w) (hc : Announced s.feed c) : (s.begin c).Watchful w := by
  have hsignal : (s.begin c).feed.signal = s.feed.signal := hc.signal
  by_cases hsilent : c.notices = []
  · obtain ⟨hclosed, hpop⟩ := hc.silent hsilent
    refine ⟨?_, ?_, fun hplace hasleep hready => ?_, fun hplace hasleep hreason => ?_⟩
    · rw [hsignal]
      exact h.vacant
    · rw [hsignal]
      exact h.registered
    · rw [hsignal] at hasleep
      exact (h.check hplace hasleep (hpop hready)).begin c
    · rw [hsignal] at hasleep
      refine (h.wait hplace hasleep ?_).begin c
      rcases hreason with hready | hend
      · exact .inl (hpop hready)
      · right
        rw [← hclosed]
        exact hend
  · have howes : (s.begin c).Owes := owes_begin hsilent
    refine ⟨?_, ?_, fun _ _ _ => howes, fun _ _ _ => howes⟩
    · rw [hsignal]
      exact h.vacant
    · rw [hsignal]
      exact h.registered

lemma vacant_notify (h : f.signal.Vacant) (notice : Feed.Notice) :
    (f.notify notice).signal.Vacant := by
  cases notice with
  | one => exact h.notifyOne
  | all => exact h.notifyAll

/-- Every notice wakes the waiter of the consumer. -/
lemma awake_notify (h : f.signal.Registered w) (notice : Feed.Notice) :
    (f.notify notice).signal.Awake w := by
  cases notice with
  | one => exact h.notifyOne
  | all => exact h.notifyAll

lemma Watchful.notify (h : s.Watchful w) (i : Nat) : (s.notify i).Watchful w := by
  unfold Exchange.notify
  split
  · next notice rest _ =>
    -- the notice wakes a waiter, so that the two last conditions ask for nothing
    have hawake (hplace : s.place ≠ .asking .register) : ¬(s.feed.notify notice).signal.Asleep w :=
      (awake_notify (h.registered hplace) notice).not_asleep
    refine ⟨fun hplace => ?_, fun hplace => ?_, fun hplace hasleep => ?_,
      fun hplace hasleep => ?_⟩
    · exact vacant_notify (h.vacant hplace) notice
    · exact .inr (awake_notify (h.registered hplace) notice)
    · exact absurd hasleep (hawake (by rw [show s.place = _ from hplace]; exact nofun))
    · exact absurd hasleep (hawake (by rw [show s.place = _ from hplace]; exact nofun))
  · exact h

/-! ### The consumer -/

/-- What is released changes nothing but the tracks. -/
lemma eq_of_pop? (h : f.pop? = some (p, g)) : g = { f with tracks := g.tracks } := by
  obtain ⟨r, -, heq⟩ := Option.map_eq_some_iff.1 h
  cases heq
  rfl

/-- A consumer without a waiter is about to register one. -/
lemma watchful_of_vacant (hplace : s.place = .asking .register) (h : s.feed.signal.Vacant) :
    s.Watchful w := by
  obtain ⟨feed, owed, place, answers⟩ := s
  cases hplace
  exact ⟨fun _ => h, fun hne => absurd rfl hne, nofun, nofun⟩

/-- A consumer that knows its answer still has its waiter. -/
lemma watchful_of_leaving {answer : Option Packet} (hplace : s.place = .leaving answer)
    (h : s.feed.signal.Registered w) : s.Watchful w := by
  obtain ⟨feed, owed, place, answers⟩ := s
  cases hplace
  exact ⟨nofun, fun _ => h, nofun, nofun⟩

/-- Every step of the consumer is watchful: it looks only after it has registered, and it parks only
if there was nothing to go on for.

**Proof sketch.** By cases on the step. A consumer that finds no packet, or finds the feed open, is
right at that moment; if it is asleep all the same when this changes, the change is still owed. -/
lemma Watchful.consume (h : s.Watchful w) : (s.consume w).Watchful w := by
  have hstep := consumes w s
  generalize s.consume w = t at hstep ⊢
  have hregistered (hplace : s.place ≠ .asking .register) : s.feed.signal.Registered w :=
    h.registered hplace
  cases hstep with
  | registers hplace =>
    have hregister := (h.vacant hplace).register w
    exact ⟨nofun, fun _ => hregister, nofun, nofun⟩
  | finds hplace hpop =>
    apply watchful_of_leaving rfl
    rw [eq_of_pop? hpop]
    exact hregistered (by simp [hplace])
  | misses hplace hpop =>
    refine ⟨nofun, fun _ => hregistered (by simp [hplace]), fun _ _ hready => ?_, nofun⟩
    rw [hpop] at hready
    cases hready
  | ends hplace hclosed => exact watchful_of_leaving rfl (hregistered (by simp [hplace]))
  | parks hplace hopen =>
    refine ⟨nofun, fun _ => hregistered (by simp [hplace]), nofun, fun _ hasleep hreason => ?_⟩
    rcases hreason with hready | hend
    · exact h.check hplace hasleep hready
    · rw [hopen] at hend
      cases hend
  | wakes hplace hwoken =>
    exact watchful_of_vacant rfl (hregistered (by simp [hplace])).forget
  | sleeps => exact h
  | leaves hplace => exact watchful_of_vacant rfl (hregistered (by simp [hplace])).cancel

lemma Watchful.giveUp (h : s.Watchful w) : (s.giveUp w).Watchful w := by
  unfold Exchange.giveUp
  split
  · next hplace =>
    exact watchful_of_vacant rfl (h.registered (by rw [hplace]; exact nofun)).cancel
  · exact h

/-! ### Runs -/

lemma Watchful.move (h : s.Watchful w) (m : Move) : (s.move w m).Watchful w := by
  cases m with
  | create track timebase => exact h.begin (announced_creating _ _ _)
  | remove track => exact h.begin (announced_removing _ _)
  | push p =>
    show ((s.feed.pushing? p).elim s s.begin).Watchful w
    cases hpush : s.feed.pushing? p with
    | none => exact h
    | some c => exact h.begin (announced_pushing hpush)
  | close => exact h.begin (announced_closing _)
  | notify i => exact h.notify i
  | consume => exact h.consume
  | giveUp => exact h.giveUp

/-- **The invariant of every run.** -/
lemma watchful_run (w : WaiterId) (moves : List Move) : (run w {} moves).Watchful w := by
  induction moves using List.reverseRecOn with
  | nil => exact watchful_start w
  | append_singleton moves m ih =>
    rw [run, List.foldl_append]
    exact ih.move m

/-- **A consumer that sleeps while nobody owes a notice has missed nothing**: no packet can be
released, and the feed has not ended. -/
lemma Watchful.pop?_eq_none_of_parked (h : s.Watchful w) (hidle : s.Idle)
    (hparked : s.Parked w) : s.feed.pop? = none ∧ s.feed.closed = false := by
  obtain ⟨hplace, hwoken⟩ := hparked
  have hregistered : s.feed.signal.Registered w := h.registered (by rw [hplace]; exact nofun)
  have hasleep : s.feed.signal.Asleep w := hregistered.asleep hwoken
  have hreason : ¬(s.feed.pop?.isSome = true ∨ s.feed.closed = true) :=
    fun hreason => hidle.not_owes (h.wait hplace hasleep hreason)
  rw [not_or, Bool.not_eq_true, Bool.not_eq_true, Option.isSome_eq_false_iff,
    Option.isNone_iff_eq_none] at hreason
  exact hreason

end

end Exchange

end LiveMedia
