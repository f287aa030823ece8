import LiveMedia.Proofs.Provider.Removal

set_option autoImplicit false

/-!
# Letting several sessions go at once

Sessions that are let go one after another might as well be let go at once: they are bound to
nothing then, their applications are without their streams, and these streams are closed. So it does
not matter in which order they are let go, and nothing else changes.

## Main definitions

* `LiveMedia.Provider.bindingsOf` — what some sessions publish.
* `LiveMedia.Provider.without` — the provider once they have been let go.

## Main results

* `LiveMedia.Provider.release_eq_without` — for one session.
* `LiveMedia.Provider.foldl_releaseDeleted` — for one after another.
* `LiveMedia.Provider.without_congr` — the order does not matter.
-/

namespace LiveMedia

/-! ## Stores in which every object changes -/

namespace Store

variable {α : Type} {s t : Store α}

/-- Every object changed, each in a way of its own. -/
def mapIdx (s : Store α) (f : Nat → α → α) : Store α :=
  ⟨s.items.mapIdx f⟩

lemma get?_mapIdx (s : Store α) (f : Nat → α → α) (id : Nat) :
    (s.mapIdx f).get? id = (s.get? id).map (f id) :=
  List.getElem?_mapIdx

/-- Stores with the same objects under all numbers are equal. -/
lemma ext_get? (h : ∀ id, s.get? id = t.get? id) : s = t :=
  congrArg Store.mk (List.ext_getElem? h)

/-- Objects that do not change leave the store as it is. -/
lemma mapIdx_eq_self {f : Nat → α → α} (h : ∀ id x, s.get? id = some x → f id x = x) :
    s.mapIdx f = s := by
  refine ext_get? fun id => ?_
  rw [get?_mapIdx]
  cases hx : s.get? id with
  | none => rfl
  | some x => rw [Option.map_some, h id x hx]

/-- The objects change in the same way. -/
lemma mapIdx_congr {f g : Nat → α → α} (h : ∀ id x, s.get? id = some x → f id x = g id x) :
    s.mapIdx f = s.mapIdx g := by
  refine ext_get? fun id => ?_
  rw [get?_mapIdx, get?_mapIdx]
  exact Option.map_congr fun x hx => h id x hx

/-- The objects change twice. -/
lemma mapIdx_mapIdx (s : Store α) (f g : Nat → α → α) :
    (s.mapIdx f).mapIdx g = s.mapIdx fun id x => g id (f id x) := by
  refine ext_get? fun id => ?_
  rw [get?_mapIdx, get?_mapIdx, get?_mapIdx, Option.map_map]
  rfl

/-- One object changes. -/
lemma modify_eq_mapIdx (s : Store α) (id : Nat) (f : α → α) :
    s.modify id f = s.mapIdx fun k x => if k = id then f x else x := by
  refine ext_get? fun k => ?_
  rw [get?_modify, get?_mapIdx]
  split
  · rfl
  · exact Option.map_id'.symm

end Store

namespace Table

variable {κ α : Type} [LT κ] [DecidableEq κ] [LE κ] [Std.LawfulOrderLT κ]

/-- A condition that all entries meet takes none of them out. -/
lemma filter_eq_self {t : Table κ α} {f : κ → α → Bool}
    (h : ∀ key value, t.get? key = some value → f key value = true) : t.filter f = t :=
  ext (List.filter_eq_self.2 fun e he => h e.1 e.2 (get?_eq_some_iff.2 he))

lemma filter_congr {t : Table κ α} {f g : κ → α → Bool}
    (h : ∀ key value, t.get? key = some value → f key value = g key value) :
    t.filter f = t.filter g :=
  ext (List.filter_congr fun e he => h e.1 e.2 (get?_eq_some_iff.2 he))

end Table

namespace Provider

variable {p q : Provider} {sid : SessionId} {gone gone' : List SessionId} {b : Binding}
  {A : ApplicationId} {st : StreamId}

/-! ## What is let go -/

/-- What some sessions publish. -/
def bindingsOf (p : Provider) (sids : List SessionId) : List Binding :=
  sids.filterMap fun sid => (p.sessions.get? sid).bind Session.binding

lemma mem_bindingsOf : b ∈ p.bindingsOf gone ↔
    ∃ sid ∈ gone, ∃ s, p.sessions.get? sid = some s ∧ s.binding = some b := by
  simp only [bindingsOf, List.mem_filterMap, Option.bind_eq_some_iff]

/-- What the sessions publish, as far as the wiring tells it. -/
lemma mem_bindingsOf_iff_publishes : b ∈ p.bindingsOf gone ↔
    ∃ sid ∈ gone, ∃ c, p.wiring.Publishes sid c b := by
  rw [mem_bindingsOf]
  refine exists_congr fun sid => and_congr_right fun _ => ?_
  constructor
  · rintro ⟨s, hs, hb⟩
    exact ⟨s.channel, publishes_iff.2 ⟨s, hs, rfl, hb⟩⟩
  · rintro ⟨c, hp⟩
    obtain ⟨s, hs, -, hb⟩ := publishes_iff.1 hp
    exact ⟨s, hs, hb⟩

/-- The session once those that are gone have been let go. -/
def letGo (gone : List SessionId) (sid : SessionId) (s : Session) : Session :=
  if sid ∈ gone then { s with binding := none } else s

/-- The application without the streams of some bindings. -/
def withoutStreams (bindings : List Binding) (A : ApplicationId) (a : Application) : Application :=
  { a with streams := a.streams.filter fun _ e => decide (⟨A, e.stream⟩ ∉ bindings) }

/-- The stream, closed if it is among those of some bindings. -/
def closedIn (bindings : List Binding) (st : StreamId) (x : Stream) : Stream :=
  if st ∈ bindings.map Binding.stream then x.close else x

/-- The provider once some sessions have been let go: they are bound to nothing, and the streams
that they have published are detached and closed. -/
def without (p : Provider) (gone : List SessionId) : Provider :=
  { p with
    sessions := p.sessions.mapIdx (letGo gone)
    applications := p.applications.mapIdx (withoutStreams (p.bindingsOf gone))
    streams := p.streams.mapIdx (closedIn (p.bindingsOf gone)) }

/-- What nothing else has changed in is told by its sessions, applications and streams. -/
lemma eq_without (hq : q = { p with
      sessions := q.sessions
      applications := q.applications
      streams := q.streams })
    (hsessions : q.sessions = p.sessions.mapIdx (letGo gone))
    (happlications : q.applications = p.applications.mapIdx (withoutStreams (p.bindingsOf gone)))
    (hstreams : q.streams = p.streams.mapIdx (closedIn (p.bindingsOf gone))) :
    q = p.without gone := by
  rw [hq, hsessions, happlications, hstreams]
  rfl

/-- Who publishes nothing is not missed. -/
lemma without_of_idle (h : p.bindingsOf gone = []) : p.without gone = p := by
  refine (eq_without rfl (Store.mapIdx_eq_self fun sid s hs => ?_).symm
    (Store.mapIdx_eq_self fun A a _ => ?_).symm (Store.mapIdx_eq_self fun st x _ => ?_).symm).symm
  · unfold letGo
    split
    · next hsid =>
      have hidle : s.binding = none := by
        rw [Option.eq_none_iff_forall_ne_some]
        intro b hb
        have hmem : b ∈ p.bindingsOf gone := mem_bindingsOf.2 ⟨sid, hsid, s, hs, hb⟩
        rw [h] at hmem
        cases hmem
      rw [← hidle]
    · rfl
  · rw [withoutStreams, Table.filter_eq_self]
    intro name e _
    rw [h]
    rfl
  · rw [closedIn, h]
    rfl

@[simp] lemma without_nil (p : Provider) : p.without [] = p :=
  without_of_idle rfl

/-- It does not matter in which order the sessions are named, or how often. -/
lemma without_congr (p : Provider) (h : ∀ sid, sid ∈ gone ↔ sid ∈ gone') :
    p.without gone = p.without gone' := by
  have hbindings (b : Binding) : b ∈ p.bindingsOf gone ↔ b ∈ p.bindingsOf gone' := by
    simp only [mem_bindingsOf, h]
  refine eq_without rfl (Store.mapIdx_congr fun sid s _ => ?_)
    (Store.mapIdx_congr fun A a _ => ?_) (Store.mapIdx_congr fun st x _ => ?_)
  · simp only [letGo, h]
  · simp only [withoutStreams, hbindings]
  · simp only [closedIn, List.mem_map, hbindings]

/-! ## One session -/

/-- The application from which a stream is detached is without that stream. -/
lemma detach_eq_withoutStreams {c : ChannelId} {key : StreamKey} (h : p.wiring.Matched)
    (hp : p.wiring.Publishes sid c ⟨A, st⟩) (hkey : p.wiring.stream? st = some (key, false)) :
    ((p.application A).detach c).2 = withoutStreams [⟨A, st⟩] A (p.application A) := by
  rw [detach_of_publishes h hp hkey]
  refine congrArg (fun streams => { p.application A with streams }) (Table.filter_congr ?_)
  rintro name ⟨c', st'⟩ he
  obtain ⟨key', hkey', hentry⟩ := h.entry_of_publishes hp
  cases hkey.symm.trans hkey'
  refine decide_eq_decide.2 ?_
  rw [List.mem_singleton, Binding.mk.injEq, not_and]
  constructor
  · -- a stream that is attached twice would have two names
    rintro hname - rfl
    obtain ⟨sid', key'', -, hst, rfl⟩ := h.publishes_of_entry he
    cases hkey.symm.trans hst
    exact hname rfl
  · rintro hst rfl
    cases hentry.symm.trans he
    exact hst rfl rfl

/-- **A session that is let go is bound to nothing, and its stream is detached and closed.** -/
lemma release_eq_without (h : p.wiring.Matched) (sid : SessionId) :
    p.release sid = p.without [sid] := by
  have hidle (hnone : (p.sessions.get? sid).bind Session.binding = none) :
      p.without [sid] = p := by
    refine without_of_idle ?_
    simp [bindingsOf, hnone]
  unfold release
  split
  · next hs => rw [hidle (by rw [hs, Option.bind_none])]
  · next s hs =>
    split
    · next hb => rw [hidle (by rw [hs, Option.bind_some, hb])]
    · next b hb =>
      obtain ⟨A, st⟩ := b
      have hp : p.wiring.Publishes sid s.channel ⟨A, st⟩ := publishes_iff.2 ⟨s, hs, rfl, hb⟩
      obtain ⟨key, hkey, -⟩ := h.entry_of_publishes hp
      have hbindings : p.bindingsOf [sid] = [⟨A, st⟩] := by
        simp [bindingsOf, hs, hb]
      refine eq_without rfl ?_ ?_ ?_
      · refine (Store.modify_eq_mapIdx _ _ _).trans (Store.mapIdx_congr fun sid' s' _ => ?_)
        simp only [letGo, List.mem_singleton]
      · rw [hbindings]
        refine (Store.modify_eq_mapIdx _ _ _).trans (Store.mapIdx_congr fun B a ha => ?_)
        split
        · next hB =>
          subst hB
          rw [← application_of_get? (p := p) ha]
          exact detach_eq_withoutStreams h hp hkey
        · next hB =>
          rw [withoutStreams, Table.filter_eq_self]
          intro name e _
          simp [hB]
      · rw [hbindings]
        refine (Store.modify_eq_mapIdx _ _ _).trans (Store.mapIdx_congr fun st' x _ => ?_)
        simp only [closedIn, List.map_cons, List.map_nil, List.mem_singleton]

/-! ## One after another -/

/-- What is left to be published by those that go later. -/
lemma mem_bindingsOf_without : b ∈ (p.without gone).bindingsOf gone' ↔
    ∃ sid ∈ gone', sid ∉ gone ∧ ∃ s, p.sessions.get? sid = some s ∧ s.binding = some b := by
  rw [mem_bindingsOf]
  refine exists_congr fun sid => and_congr_right fun _ => ?_
  show (∃ s, (p.sessions.mapIdx (letGo gone)).get? sid = some s ∧ s.binding = some b) ↔ _
  simp only [Store.get?_mapIdx, Option.map_eq_some_iff]
  constructor
  · rintro ⟨_, ⟨s, hs, rfl⟩, hb⟩
    unfold letGo at hb
    split at hb
    · cases hb
    · next hsid => exact ⟨hsid, s, hs, hb⟩
  · rintro ⟨hsid, s, hs, hb⟩
    exact ⟨s, ⟨s, hs, if_neg hsid⟩, hb⟩

/-- **Sessions are let go in two groups, or all at once.** -/
lemma without_without (h : p.wiring.Matched) (gone gone' : List SessionId) :
    (p.without gone).without gone' = p.without (gone ++ gone') := by
  have hbindings (b : Binding) : b ∈ p.bindingsOf (gone ++ gone') ↔
      b ∈ p.bindingsOf gone ∨ b ∈ (p.without gone).bindingsOf gone' := by
    rw [mem_bindingsOf, mem_bindingsOf, mem_bindingsOf_without]
    constructor
    · rintro ⟨sid, hsid, hs⟩
      by_cases hgone : sid ∈ gone
      · exact Or.inl ⟨sid, hgone, hs⟩
      · exact Or.inr ⟨sid, (List.mem_append.1 hsid).resolve_left hgone, hgone, hs⟩
    · rintro (⟨sid, hsid, hs⟩ | ⟨sid, hsid, -, hs⟩)
      · exact ⟨sid, List.mem_append_left _ hsid, hs⟩
      · exact ⟨sid, List.mem_append_right _ hsid, hs⟩
  -- no two sessions publish one stream, so none is closed twice
  have hstream (st : StreamId) (hst : st ∈ (p.bindingsOf gone).map Binding.stream) :
      st ∉ ((p.without gone).bindingsOf gone').map Binding.stream := by
    intro hst'
    obtain ⟨⟨A, _⟩, hb, rfl⟩ := List.mem_map.1 hst
    obtain ⟨⟨A', _⟩, hb', rfl⟩ := List.mem_map.1 hst'
    obtain ⟨sid, hsid, c, hp⟩ := mem_bindingsOf_iff_publishes.1 hb
    obtain ⟨sid', -, hnot, s', hs', hbs'⟩ := mem_bindingsOf_without.1 hb'
    have hp' : p.wiring.Publishes sid' s'.channel ⟨A', _⟩ := publishes_iff.2 ⟨s', hs', rfl, hbs'⟩
    rw [h.eq_of_stream hp' hp] at hnot
    exact hnot hsid
  refine eq_without rfl ?_ ?_ ?_
  · refine (Store.mapIdx_mapIdx _ _ _).trans ?_
    refine Store.mapIdx_congr fun sid s _ => ?_
    simp only [letGo, List.mem_append]
    by_cases hsid : sid ∈ gone <;> by_cases hsid' : sid ∈ gone' <;> simp [hsid, hsid']
  · refine (Store.mapIdx_mapIdx _ _ _).trans ?_
    refine Store.mapIdx_congr fun A a _ => ?_
    refine congrArg (fun streams => { a with streams }) (Table.ext_get? fun name => ?_)
    unfold withoutStreams
    dsimp only
    rw [Table.get?_filter, Table.get?_filter, Table.get?_filter, Option.filter_filter]
    refine congrArg (Option.filter · (a.streams.get? name)) (funext fun e => ?_)
    simp only [hbindings, not_or, Bool.decide_and]
  · refine (Store.mapIdx_mapIdx _ _ _).trans ?_
    refine Store.mapIdx_congr fun st x _ => ?_
    have hmem : st ∈ (p.bindingsOf (gone ++ gone')).map Binding.stream ↔
        st ∈ (p.bindingsOf gone).map Binding.stream ∨
          st ∈ ((p.without gone).bindingsOf gone').map Binding.stream := by
      simp only [List.mem_map, hbindings, or_and_right, exists_or]
    unfold closedIn
    by_cases hst : st ∈ (p.bindingsOf gone).map Binding.stream
    · rw [if_pos (hmem.2 (Or.inl hst)), if_pos hst, if_neg (hstream st hst)]
    · simp only [hmem, hst, if_false, false_or]

/-- **Sessions that are let go one after another are let go at once**, and each is counted. -/
lemma foldl_releaseDeleted (h : p.wiring.Matched) (gone : List SessionId) :
    gone.foldl releaseDeleted p =
      { p.without gone with counters :=
        { p.counters with deleted := p.counters.deleted + gone.length } } := by
  induction gone generalizing p with
  | nil =>
    rw [without_nil]
    rfl
  | cons sid gone ih =>
    have hfirst : p.releaseDeleted sid =
        ({ p.without [sid] with counters := p.counters.delete } : Provider) := by
      rw [releaseDeleted, release_eq_without h]
      rfl
    have hmatched : (p.releaseDeleted sid).wiring.Matched := (released_release h sid).matched
    rw [List.foldl_cons, ih hmatched, hfirst]
    show ({ (p.without [sid]).without gone with counters := _ } : Provider) = _
    rw [without_without h, List.length_cons, Nat.add_comm gone.length, ← Nat.add_assoc]
    rfl

/-- The sessions and the applications still agree. -/
lemma matched_without (h : p.wiring.Matched) (gone : List SessionId) :
    (p.without gone).wiring.Matched := by
  have hmatched := (released_foldl gone h).matched
  rw [foldl_releaseDeleted h] at hmatched
  exact hmatched

/-! ## What is left -/

/-- An application keeps what nobody gives up who goes. -/
lemma application_without (p : Provider) (gone : List SessionId) (A : ApplicationId) :
    (p.without gone).application A =
      withoutStreams (p.bindingsOf gone) A (p.application A) := by
  show ((p.applications.mapIdx _).get? A).getD _ = withoutStreams _ A ((p.applications.get? A).getD _)
  rw [Store.get?_mapIdx]
  cases p.applications.get? A <;> rfl

lemma entry_without {name : String} {e : Attached} :
    ((p.without gone).application A).streams.get? name = some e ↔
      ⟨A, e.stream⟩ ∉ p.bindingsOf gone ∧ (p.application A).streams.get? name = some e := by
  rw [application_without]
  show ((p.application A).streams.filter _).get? name = some e ↔ _
  rw [Table.get?_filter, Option.filter_eq_some_iff, decide_eq_true_iff, and_comm]

lemma stream_without (p : Provider) (gone : List SessionId) (st : StreamId) :
    (p.without gone).streams.get? st = (p.streams.get? st).map (closedIn (p.bindingsOf gone) st) :=
  Store.get?_mapIdx _ _ _

/-- The stream that somebody gives up who goes is closed. -/
lemma stream_without_of_mem {x : Stream} (hb : ⟨A, st⟩ ∈ p.bindingsOf gone)
    (hx : p.streams.get? st = some x) :
    (p.without gone).streams.get? st = some x.close ∧ x.close.isClosed = true := by
  have hst : st ∈ (p.bindingsOf gone).map Binding.stream := List.mem_map.2 ⟨_, hb, rfl⟩
  rw [stream_without, hx, Option.map_some, closedIn, if_pos hst]
  exact ⟨rfl, Feed.closed_complete _⟩

/-- A stream that nobody gives up stays as it is. -/
lemma stream_without_of_not_mem (hst : ∀ A, ⟨A, st⟩ ∉ p.bindingsOf gone) :
    (p.without gone).streams.get? st = p.streams.get? st := by
  have hnot : st ∉ (p.bindingsOf gone).map Binding.stream := by
    intro hmem
    obtain ⟨⟨A, _⟩, hb, rfl⟩ := List.mem_map.1 hmem
    exact hst A hb
  have hself : closedIn (p.bindingsOf gone) st = id := by
    funext x
    exact if_neg hnot
  rw [stream_without, hself, Option.map_id, id]

end Provider

end LiveMedia
