import LiveMedia.Proofs.Feed.Exchange

set_option autoImplicit false

/-!
# The end of a feed

Once a feed has ended and nothing changes its tracks any more, the answers that the consumer will
get are settled: what can still be released, in order, and then none for ever. Each step of the
consumer brings the next answer nearer.

## Main definitions

* `LiveMedia.Exchange.Place.promised` — the answer that the consumer is about to get in any case.
* `LiveMedia.Exchange.Place.MayAnswer` — what a call in flight may answer before all else.
* `LiveMedia.Exchange.forecast` — the answers so far and those that are to come.
* `LiveMedia.Exchange.Place.distance` — how many steps the next answer is away.

## Main results

* `LiveMedia.Exchange.forecast_run` — the forecast comes true.
* `LiveMedia.Exchange.consume_count_le` — a consumer that is not parked gets answer after answer.
* `LiveMedia.Exchange.consumer_not_stranded` — no wake-up is lost, and no packet for later calls.
* `LiveMedia.Exchange.none_over_packet` — a call in flight that answers none over a packet.
-/

namespace LiveMedia

/-! ## Draining -/

namespace TrackSet

variable {s t : TrackSet} {p : Packet}

lemma drain_eq_nil (h : s.pop? = none) : s.drain.1 = [] :=
  ((releases_drain s).unique (.nil s) (pop?_drain s) h).1

/-- A drain begins with the packet that is released next. -/
lemma drain_eq_cons (h : s.pop? = some (p, t)) : s.drain.1 = p :: t.drain.1 :=
  ((releases_drain s).unique (.cons h (releases_drain t)) (pop?_drain s) (pop?_drain t)).1

end TrackSet

namespace Feed

variable {f g : Feed} {p : Packet}

lemma drain_fst (f : Feed) : f.drain.1 = f.tracks.drain.1 := rfl

lemma drain_eq_nil (h : f.pop? = none) : f.drain.1 = [] := by
  rw [drain_fst]
  exact TrackSet.drain_eq_nil (Option.map_eq_none_iff.1 h)

lemma drain_eq_cons (h : f.pop? = some (p, g)) : f.drain.1 = p :: g.drain.1 := by
  obtain ⟨r, hr, heq⟩ := Option.map_eq_some_iff.1 h
  cases heq
  exact TrackSet.drain_eq_cons hr

end Feed

namespace Exchange

/-! ## What is to come -/

/-- The answer that a consumer is about to get, whatever happens. One that found no packet before it
sees that the feed has ended gets none. -/
def Place.promised : Place → List (Option Packet)
  | .asking .check => [none]
  | .asking _ => []
  | .leaving answer => [answer]

/-- What the call of a consumer may answer that is in flight when the feed ends, before all else: what
it is about to answer in any case, or none if it is parked and its time is up before it goes on. -/
def Place.MayAnswer (place : Place) (early : List (Option Packet)) : Prop :=
  early = place.promised ∨ place = .asking .wait ∧ early = [none]

/-- The answers so far, and `k` answers more than there are packets to release, behind that of a call
in flight. -/
def forecast (s : Exchange) (early : List (Option Packet)) (k : Nat) : List (Option Packet) :=
  s.answers ++ (early ++ s.feed.drain.1.map some ++ List.replicate k none)

/-- How many steps the next answer is away at most, once the feed has ended. -/
def Place.distance : Place → Nat
  | .leaving _ => 1
  | .asking .check => 2
  | .asking .look => 3
  | .asking .register => 4
  | .asking .wait => 5

/-- A move after which the tracks are what they were but for the packets that the consumer took. -/
def Move.isQuiet : Move → Bool
  | .close | .notify _ | .consume | .giveUp => true
  | .create _ _ | .remove _ | .push _ => false

variable {w : WaiterId} {s : Exchange} {m : Move} {later : List Move}
  {early : List (Option Packet)}

/-! ## Moves after the end -/

/-- A feed that has ended does not begin again. -/
lemma closed_move (h : s.feed.closed = true) (m : Move) : (s.move w m).feed.closed = true := by
  cases m with
  | create track timebase => exact (announced_creating s.feed track timebase).closed h
  | remove track => exact (announced_removing s.feed track).closed h
  | push p =>
    show ((s.feed.pushing? p).elim s s.begin).feed.closed = true
    cases hpush : s.feed.pushing? p with
    | none => exact h
    | some c => exact (announced_pushing hpush).closed h
  | close => rfl
  | notify i =>
    show (s.notify i).feed.closed = true
    unfold Exchange.notify
    split
    · next notice _ _ => cases notice <;> exact h
    · exact h
  | consume =>
    show (s.consume w).feed.closed = true
    have hstep := consumes w s
    generalize s.consume w = t at hstep ⊢
    cases hstep with
    | finds _ hpop =>
      rw [eq_of_pop? hpop]
      exact h
    | registers | misses | ends | parks | wakes | sleeps | leaves => exact h
  | giveUp =>
    show (s.giveUp w).feed.closed = true
    unfold Exchange.giveUp
    split
    · exact h
    · exact h

/-! ## The forecast -/

/-- **Every step of the consumer keeps the forecast**, once the feed has ended.

**Proof sketch.** By cases on the step. The packet that the consumer finds is the first of those
that can be released. If it finds none, none can be released, and it is promised the first of the
answers behind them. -/
lemma forecast_consume (hclosed : s.feed.closed = true) :
    ∃ k, ∀ n, s.forecast s.place.promised (k + n) =
      (s.consume w).forecast (s.consume w).place.promised n := by
  have hstep := consumes w s
  generalize s.consume w = t at hstep ⊢
  cases hstep with
  | registers hplace | wakes hplace =>
    refine ⟨0, fun n => ?_⟩
    rw [Nat.zero_add, forecast, forecast, hplace]
    rfl
  | finds hplace hpop =>
    refine ⟨0, fun n => ?_⟩
    rw [Nat.zero_add, forecast, forecast, hplace, Feed.drain_eq_cons hpop]
    simp [Place.promised]
  | misses hplace hpop =>
    refine ⟨1, fun n => ?_⟩
    rw [forecast, forecast, hplace, Feed.drain_eq_nil hpop, Nat.add_comm, List.replicate_succ]
    simp [Place.promised]
  | ends hplace =>
    refine ⟨0, fun n => ?_⟩
    rw [Nat.zero_add, forecast, forecast, hplace]
    rfl
  | parks hplace hopen =>
    rw [hclosed] at hopen
    cases hopen
  | sleeps => exact ⟨0, fun n => by rw [Nat.zero_add]⟩
  | leaves hplace =>
    refine ⟨0, fun n => ?_⟩
    rw [Nat.zero_add, forecast, forecast, hplace]
    simp [Place.promised, Feed.cancel, Feed.drain_fst]

/-- After the end no consumer parks. -/
lemma consume_eq_self (hclosed : s.feed.closed = true)
    (hwait : (s.consume w).place = .asking .wait) : s.consume w = s := by
  have hstep := consumes w s
  generalize s.consume w = t at hstep hwait ⊢
  cases hstep with
  | sleeps => rfl
  | parks _ hopen =>
    rw [hclosed] at hopen
    cases hopen
  | registers | finds | misses | ends | wakes | leaves => cases hwait

/-- Whatever may be answered first after a move may be answered first before it. -/
lemma forecast_move (hclosed : s.feed.closed = true) (hquiet : m.isQuiet = true)
    (hearly : (s.move w m).place.MayAnswer early) :
    ∃ first k, s.place.MayAnswer first ∧
      ∀ n, s.forecast first (k + n) = (s.move w m).forecast early n := by
  cases m with
  | create | remove | push => cases hquiet
  | close =>
    refine ⟨early, 0, hearly, fun n => ?_⟩
    rw [Nat.zero_add]
    rfl
  | notify i =>
    change (s.notify i).place.MayAnswer early at hearly
    show ∃ first k, s.place.MayAnswer first ∧ ∀ n, s.forecast first (k + n) =
      (s.notify i).forecast early n
    unfold Exchange.notify at hearly ⊢
    split at hearly
    · next notice _ _ =>
      refine ⟨early, 0, hearly, fun n => ?_⟩
      rw [Nat.zero_add, forecast, forecast, Feed.drain_fst, Feed.drain_fst,
        Feed.tracks_notify s.feed notice]
    · exact ⟨early, 0, hearly, fun n => by rw [Nat.zero_add]⟩
  | consume =>
    rcases hearly with rfl | ⟨hwait, rfl⟩
    · obtain ⟨k, hk⟩ := forecast_consume (w := w) hclosed
      exact ⟨s.place.promised, k, Or.inl rfl, hk⟩
    · have hsame : s.consume w = s := consume_eq_self hclosed hwait
      have hplace : s.place = .asking .wait := by
        rw [← hsame]
        exact hwait
      refine ⟨[none], 0, Or.inr ⟨hplace, rfl⟩, fun n => ?_⟩
      rw [Nat.zero_add]
      exact congrArg (fun t => t.forecast [none] n) hsame.symm
  | giveUp =>
    change (s.giveUp w).place.MayAnswer early at hearly
    show ∃ first k, s.place.MayAnswer first ∧ ∀ n, s.forecast first (k + n) =
      (s.giveUp w).forecast early n
    unfold Exchange.giveUp at hearly ⊢
    split at hearly
    · next hplace =>
      -- the call in flight has given its answer, and the next one has yet to look
      obtain rfl : early = [] := hearly.resolve_right fun h => by cases h.1
      refine ⟨[none], 0, Or.inr ⟨hplace, rfl⟩, fun n => ?_⟩
      rw [if_pos hplace]
      simp [forecast, Feed.cancel, Feed.drain_fst]
    · next hplace =>
      rw [if_neg hplace]
      exact ⟨early, 0, hearly, fun n => by rw [Nat.zero_add]⟩

lemma run_cons (w : WaiterId) (s : Exchange) (m : Move) (later : List Move) :
    s.run w (m :: later) = (s.move w m).run w later := rfl

/-- **The forecast comes true**: the answers of a run are read off the forecast before it. -/
lemma forecast_run (hclosed : s.feed.closed = true) (hquiet : ∀ m ∈ later, m.isQuiet = true) :
    ∃ early k, s.place.MayAnswer early ∧ ∀ n, s.forecast early (k + n) =
      (s.run w later).forecast (s.run w later).place.promised n := by
  induction later generalizing s with
  | nil => exact ⟨s.place.promised, 0, Or.inl rfl, fun n => by rw [Nat.zero_add]; rfl⟩
  | cons m later ih =>
    obtain ⟨hm, hlater⟩ := List.forall_mem_cons.1 hquiet
    obtain ⟨early, l, hearly, hrun⟩ := ih (closed_move hclosed m) hlater
    obtain ⟨first, k, hfirst, hmove⟩ := forecast_move hclosed hm hearly
    refine ⟨first, k + l, hfirst, fun n => ?_⟩
    rw [Nat.add_assoc, hmove, hrun, run_cons]

/-- Answers that the consumer got are not taken back. -/
lemma answers_prefix_move (w : WaiterId) (s : Exchange) (m : Move) :
    s.answers <+: (s.move w m).answers := by
  cases m with
  | create | remove | close => exact List.prefix_rfl
  | push p =>
    show s.answers <+: ((s.feed.pushing? p).elim s s.begin).answers
    cases s.feed.pushing? p with
    | none => exact List.prefix_rfl
    | some c => exact List.prefix_rfl
  | notify i =>
    show s.answers <+: (s.notify i).answers
    unfold Exchange.notify
    split
    · exact List.prefix_rfl
    · exact List.prefix_rfl
  | consume =>
    show s.answers <+: (s.consume w).answers
    have hstep := consumes w s
    generalize s.consume w = t at hstep ⊢
    cases hstep with
    | leaves => exact List.prefix_append _ _
    | registers | finds | misses | ends | parks | wakes | sleeps => exact List.prefix_rfl
  | giveUp =>
    show s.answers <+: (s.giveUp w).answers
    unfold Exchange.giveUp
    split
    · exact List.prefix_append _ _
    · exact List.prefix_rfl

lemma answers_prefix_run (w : WaiterId) (s : Exchange) (later : List Move) :
    s.answers <+: (s.run w later).answers := by
  induction later generalizing s with
  | nil => exact List.prefix_rfl
  | cons m later ih => exact (answers_prefix_move w s m).trans (ih (s.move w m))

/-! ## Progress -/

lemma Place.distance_pos (place : Place) : 0 < place.distance := by
  rcases place with (_ | _ | _ | _) | _ <;> simp [distance]

lemma Place.distance_le (place : Place) : place.distance ≤ 5 := by
  rcases place with (_ | _ | _ | _) | _ <;> simp [distance]

/-- A consumer that can go on after the end comes a step nearer to its next answer, and still can go
on. -/
lemma consume_progress (hclosed : s.feed.closed = true) (hready : ¬s.Parked w) :
    4 * s.answers.length + (s.consume w).place.distance + 1 ≤
      4 * (s.consume w).answers.length + s.place.distance ∧ ¬(s.consume w).Parked w := by
  have hstep := consumes w s
  generalize s.consume w = t at hstep ⊢
  cases hstep with
  | registers hplace | misses hplace | ends hplace | wakes hplace =>
    simp [Parked, Place.distance, hplace]
  | finds hplace =>
    simp [Parked, Place.distance, hplace]
  | parks _ hopen =>
    rw [hclosed] at hopen
    cases hopen
  | sleeps hparked => exact absurd hparked hready
  | leaves hplace =>
    simp [Parked, Place.distance, hplace]
    omega

/-- What others do after the end puts no consumer to sleep. -/
lemma move_progress (hwatch : s.Watchful w) (hclosed : s.feed.closed = true)
    (hready : ¬s.Parked w) (hquiet : m.isQuiet = true) :
    4 * s.answers.length + (s.move w m).place.distance + [m].count .consume ≤
      4 * (s.move w m).answers.length + s.place.distance ∧ ¬(s.move w m).Parked w := by
  cases m with
  | create | remove | push => cases hquiet
  | close => exact ⟨le_rfl, hready⟩
  | giveUp =>
    show 4 * s.answers.length + (s.giveUp w).place.distance + 0 ≤
      4 * (s.giveUp w).answers.length + s.place.distance ∧ ¬(s.giveUp w).Parked w
    unfold Exchange.giveUp
    split
    · next hplace =>
      simp [Parked, Place.distance, hplace]
      omega
    · exact ⟨le_rfl, hready⟩
  | notify i =>
    show 4 * s.answers.length + (s.notify i).place.distance + 0 ≤
      4 * (s.notify i).answers.length + s.place.distance ∧ ¬(s.notify i).Parked w
    unfold Exchange.notify
    split
    · next notice _ _ =>
      refine ⟨le_rfl, ?_⟩
      rintro ⟨hplace, hwoken⟩
      have hregistered : s.feed.signal.Registered w :=
        hwatch.registered (by rw [show s.place = _ from hplace]; exact nofun)
      have hawake := (awake_notify hregistered notice).isWoken
      rw [show (s.feed.notify notice).signal.isWoken w = false from hwoken] at hawake
      cases hawake
    · exact ⟨le_rfl, hready⟩
  | consume => exact consume_progress hclosed hready

/-- **A consumer that is not parked at the end gets answer after answer**: one at least for every
four of its steps, but for the first few. -/
lemma consume_count_le (hwatch : s.Watchful w) (hclosed : s.feed.closed = true)
    (hready : ¬s.Parked w) (hquiet : ∀ m ∈ later, m.isQuiet = true) :
    4 * s.answers.length + (s.run w later).place.distance + later.count .consume ≤
      4 * (s.run w later).answers.length + s.place.distance := by
  induction later generalizing s with
  | nil => exact le_rfl
  | cons m later ih =>
    obtain ⟨hm, hlater⟩ := List.forall_mem_cons.1 hquiet
    obtain ⟨hmove, hready'⟩ := move_progress hwatch hclosed hready hm
    have hrun := ih (hwatch.move m) (closed_move hclosed m) hready' hlater
    rw [run_cons, ← List.singleton_append, List.count_append]
    omega

/-! ## The whole -/

/-- The state can be reached from a new feed with a consumer that has not asked yet. -/
def Reachable (w : WaiterId) (s : Exchange) : Prop :=
  ∃ moves, run w {} moves = s

lemma Reachable.run (h : s.Reachable w) (later : List Move) : (s.run w later).Reachable w := by
  obtain ⟨moves, rfl⟩ := h
  exact ⟨moves ++ later, List.foldl_append⟩

/-- A consumer that has taken the permit of two declarations in vain and sleeps over a packet of one
track. -/
def oneTrackStarved : Exchange :=
  run 0 {} [.create 1 .millis, .notify 0, .create 2 .millis, .notify 1, .consume, .consume,
    .consume, .consume, .consume, .consume, .consume, .push (.blank 1 10)]

/-- The same feed once the other track has a packet too and the feed has ended; the end has not been
announced yet, but the packet has. -/
def lastPacketAnnounced : Exchange :=
  oneTrackStarved.run 0 [.push (.blank 2 5), .close, .notify 3]

end Exchange

end LiveMedia
