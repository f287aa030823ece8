import LiveMedia.Proofs.Provider.Departures
import LiveMedia.Proofs.Provider.Reachable

set_option autoImplicit false

/-!
# Visit after visit

The hook that is called at a visit in a sweep may give signs of life to sessions that have been
visited before or are still to be visited, and each session is judged twice, before the call of its
hook and after it. Here this is told visit by visit: at any time some sessions have been removed, and
the hook has been called or it has not.

## Main definitions

* `LiveMedia.Provider.HookMarks` — the hook gives signs of life to certain sessions, and does nothing
  else.
* `LiveMedia.Provider.lapses` — a session has been silent for too long, whatever the hook does.
* `LiveMedia.Provider.reaping` — the provider once some sessions have given a sign of life and some
  have been removed.

## Main results

* `LiveMedia.Provider.visit_reaping` — one visit.
* `LiveMedia.Provider.sweepIn_eq` — a sweep in a given order.
-/

namespace LiveMedia.Provider

variable {p q : Provider} {sid id : SessionId} {c : ChannelId} {s : Session} {now : Time}
  {R M D order : List SessionId}

/-! ## Signs of life -/

/-- The hook does nothing but give signs of life, always to the same sessions. No hook gives none. -/
def HookMarks (p : Provider) (R : List SessionId) : Prop :=
  match p.hook with
  | none => R = []
  | some hook => ∀ id c sid, sid ∈ hook.refreshes id c ↔ sid ∈ R

/-- The session once those in `R` have given a sign of life. -/
def marked (R : List SessionId) (now : Time) (sid : SessionId) (s : Session) : Session :=
  if sid ∈ R then { s with lastReceived := now } else s

/-- The provider once the sessions in `R` have given a sign of life. -/
def marking (p : Provider) (R : List SessionId) : Provider :=
  { p with sessions := p.sessions.mapIdx (marked R p.now) }

@[simp] lemma channel_marked (R : List SessionId) (now : Time) (sid : SessionId) (s : Session) :
    (marked R now sid s).channel = s.channel := by
  unfold marked
  split <;> rfl

@[simp] lemma binding_marked (R : List SessionId) (now : Time) (sid : SessionId) (s : Session) :
    (marked R now sid s).binding = s.binding := by
  unfold marked
  split <;> rfl

lemma marked_marked (h : M = [] ∨ M = R) (now : Time) (sid : SessionId) (s : Session) :
    marked R now sid (marked M now sid s) = marked R now sid s := by
  rcases h with rfl | rfl
  · rfl
  · unfold marked
    split <;> rfl

lemma foldl_markReceived (sids : List SessionId) (p : Provider) :
    sids.foldl markReceived p = p.marking sids := by
  induction sids generalizing p with
  | nil =>
    have hsessions : p.sessions.mapIdx (marked [] p.now) = p.sessions :=
      Store.mapIdx_eq_self fun _ _ _ => rfl
    rw [marking, hsessions]
    rfl
  | cons sid sids ih =>
    rw [List.foldl_cons, ih]
    refine congrArg (fun sessions => { p with sessions }) ?_
    show (p.sessions.modify sid _).mapIdx (marked sids p.now) = p.sessions.mapIdx _
    rw [Store.modify_eq_mapIdx, Store.mapIdx_mapIdx]
    refine Store.mapIdx_congr fun id s _ => ?_
    unfold marked
    simp only [List.mem_cons]
    by_cases hid : id = sid <;> by_cases hmem : id ∈ sids <;> simp [hid, hmem]

lemma wiring_marking (p : Provider) (R : List SessionId) : (p.marking R).wiring = p.wiring := by
  have hsession : (p.marking R).wiring.session? = p.wiring.session? := by
    funext sid
    show ((p.sessions.mapIdx _).get? sid).map _ = (p.sessions.get? sid).map _
    rw [Store.get?_mapIdx, Option.map_map]
    congr 1
    funext s
    simp
  exact congrArg (fun session? => { p.wiring with session? }) hsession

/-- The same provider with other logs. -/
def withLogs (p : Provider) (warnings : List Warning) (hookCalls : List (Time × ChannelId)) :
    Provider :=
  { p with warnings, hookCalls }

/-- The call of the hook is logged, and the sessions give a sign of life. -/
lemma callHook_eq (h : p.HookMarks R) (id : SessionId) (c : ChannelId) :
    ∃ calls, p.callHook id c = (p.marking R).withLogs p.warnings calls := by
  unfold callHook
  unfold HookMarks at h
  split
  · next hhook =>
    rw [hhook] at h
    subst h
    exact ⟨p.hookCalls, foldl_markReceived [] p⟩
  · next hook hhook =>
    rw [hhook] at h
    refine ⟨p.hookCalls ++ [(p.now, c)], (foldl_markReceived _ _).trans ?_⟩
    refine congrArg (fun sessions : Store Session =>
      ({ p with sessions, hookCalls := p.hookCalls ++ [(p.now, c)] } : Provider)) ?_
    refine Store.mapIdx_congr fun sid s _ => ?_
    simp only [marked, h]

/-! ## Who is removed -/

/-- The session has been silent for too long at `now`. -/
def isSilent (p : Provider) (now : Time) (sid : SessionId) : Bool :=
  (p.sessions.get? sid).any (·.isExpired now)

/-- Some channel has been silent for too long at `now`. -/
def hasSilent (p : Provider) (now : Time) : Bool :=
  p.channels.values.any (p.isSilent now)

/-- The session has been silent for too long at `now`, and still has once those in `R` have given a
sign of life. -/
def lapses (p : Provider) (R : List SessionId) (now : Time) (sid : SessionId) : Bool :=
  p.isSilent now sid && (p.marking R).isSilent now sid

lemma isSilent_of_get? (hs : p.sessions.get? sid = some s) :
    p.isSilent now sid = s.isExpired now := by
  rw [isSilent, hs, Option.any_some]

lemma lapses_of_get? (hs : p.sessions.get? sid = some s) :
    p.lapses R now sid = (s.isExpired now && (marked R p.now sid s).isExpired now) := by
  have hmarked : (p.marking R).sessions.get? sid = some (marked R p.now sid s) := by
    show (p.sessions.mapIdx _).get? sid = _
    rw [Store.get?_mapIdx, hs, Option.map_some]
  rw [lapses, isSilent_of_get? hs, isSilent_of_get? hmarked]

lemma Session.isExpired_iff : s.isExpired now = true ↔
    0 < s.timeout ∧ s.timeout < now - s.lastReceived := by
  rw [Session.isExpired, Bool.and_eq_true, decide_eq_true_iff, decide_eq_true_iff]

/-- A sign of life at the clock does not make a session silent. -/
lemma isExpired_of_marked {clock : Time} (hheard : s.lastReceived ≤ clock)
    (h : (marked M clock sid s).isExpired now = true) : s.isExpired now = true := by
  unfold marked at h
  split at h
  · obtain ⟨hpos, hsilent⟩ := Session.isExpired_iff.1 h
    exact Session.isExpired_iff.2 ⟨hpos, hsilent.trans_le (Nat.sub_le_sub_left hheard now)⟩
  · exact h

/-! ## What a sweep has come to -/

/-- The provider once the sessions in `M` have given a sign of life and those in `D` have been
removed. -/
def reaping (p : Provider) (M D : List SessionId) : Provider :=
  { (p.marking M).without D with
    channels := p.channels.filter fun _ sid => decide (sid ∉ D)
    counters := { p.counters with
      deleted := p.counters.deleted + D.length
      reaped := p.counters.reaped + D.length } }

lemma reaping_nil (p : Provider) : p.reaping [] [] = p := by
  have hmarking : p.marking [] = p := (foldl_markReceived [] p).symm
  have hchannels : (p.channels.filter fun _ sid => decide (sid ∉ ([] : List SessionId))) =
      p.channels := Table.filter_eq_self fun _ _ _ => rfl
  rw [reaping, hmarking, hchannels, without_nil]
  rfl

lemma get?_reaping (hs : p.sessions.get? sid = some s) (M D : List SessionId) :
    (p.reaping M D).sessions.get? sid = some (letGo D sid (marked M p.now sid s)) := by
  show ((p.sessions.mapIdx _).mapIdx _).get? sid = _
  rw [Store.get?_mapIdx, Store.get?_mapIdx, hs, Option.map_some, Option.map_some]

lemma channels_reaping (p : Provider) (M D : List SessionId) (c : ChannelId) :
    (p.reaping M D).channels.get? c = (p.channels.get? c).filter fun sid => decide (sid ∉ D) :=
  Table.get?_filter _ _ _

/-- A sign of life that comes after the removals might have come before them. -/
lemma marking_reaping (h : M = [] ∨ M = R) (D : List SessionId) :
    (p.reaping M D).marking R = p.reaping R D := by
  have hbindings : (p.marking M).bindingsOf D = (p.marking R).bindingsOf D := by
    refine List.filterMap_congr fun sid _ => ?_
    show ((p.sessions.mapIdx _).get? sid).bind _ = ((p.sessions.mapIdx _).get? sid).bind _
    rw [Store.get?_mapIdx, Store.get?_mapIdx]
    cases p.sessions.get? sid <;> simp
  have hsessions : ((p.sessions.mapIdx (marked M p.now)).mapIdx (letGo D)).mapIdx (marked R p.now) =
      (p.sessions.mapIdx (marked R p.now)).mapIdx (letGo D) := by
    rw [Store.mapIdx_mapIdx, Store.mapIdx_mapIdx, Store.mapIdx_mapIdx]
    refine Store.mapIdx_congr fun sid s _ => ?_
    rw [← marked_marked h p.now sid s]
    unfold letGo marked
    by_cases hD : sid ∈ D <;> by_cases hR : sid ∈ R <;> simp [hD, hR]
  show ({ p with
    sessions := ((p.sessions.mapIdx (marked M p.now)).mapIdx (letGo D)).mapIdx (marked R p.now)
    applications := p.applications.mapIdx (withoutStreams ((p.marking M).bindingsOf D))
    streams := p.streams.mapIdx (closedIn ((p.marking M).bindingsOf D))
    channels := _
    counters := _ } : Provider) = _
  rw [hsessions, hbindings]
  rfl

/-- One more session is removed. -/
lemma reap_reaping (h : p.wiring.Sound) (hc : p.channels.get? c = some id) (hD : id ∉ D)
    (warnings : List Warning) (calls : List (Time × ChannelId)) :
    ((p.reaping R D).withLogs warnings calls).reap id c =
      (p.reaping R (D ++ [id])).withLogs warnings calls := by
  have hmatched : (p.marking R).wiring.Matched := (wiring_marking p R).symm ▸ h.toMatched
  -- the channel is taken out of the table first
  have hchannels : (p.channels.filter fun _ sid => decide (sid ∉ D)).erase c =
      p.channels.filter fun _ sid => decide (sid ∉ D ++ [id]) := by
    refine Table.ext_get? fun k => ?_
    rw [Table.get?_erase, Table.get?_filter, Table.get?_filter]
    split
    · next hk =>
      rw [hk, hc, Option.filter_some, if_neg]
      simp
    · next hk =>
      cases hsid : p.channels.get? k with
      | none => rfl
      | some sid =>
        -- no other number of the table stands for the same session
        have hne : sid ≠ id := by
          rintro rfl
          obtain ⟨b, hb⟩ := h.session_of_channel hsid
          obtain ⟨b', hb'⟩ := h.session_of_channel hc
          cases hb.symm.trans hb'
          exact hk rfl
        simp only [Option.filter_some, List.mem_append, List.mem_singleton, hne, or_false]
  let erased : Provider := { (p.reaping R D).withLogs warnings calls with
    channels := (p.channels.filter fun _ sid => decide (sid ∉ D)).erase c }
  have herased : erased.wiring.Matched := (matched_without hmatched D).withChannels _
  show ((erased.release id).count TableCounters.delete).count TableCounters.reap = _
  rw [release_eq_without herased]
  show ({ ((p.marking R).without D).without [id] with
    channels := (p.channels.filter fun _ sid => decide (sid ∉ D)).erase c
    counters := _
    warnings := _
    hookCalls := _ } : Provider) = _
  rw [without_without hmatched, hchannels]
  unfold reaping withLogs
  rw [List.length_append]
  rfl

/-! ## A visit -/

/-- The channel of a session. -/
def channelOf (p : Provider) (sid : SessionId) : ChannelId :=
  (p.sessions.get? sid).elim 0 Session.channel

lemma channelOf_of_get? (hs : p.sessions.get? sid = some s) : p.channelOf sid = s.channel := by
  rw [channelOf, hs, Option.elim_some]

/-- After the call of the hook a session of the table that has not been removed is judged once
more. -/
lemma isOverdue_reaping (hs : p.sessions.get? id = some s)
    (hlive : p.channels.get? s.channel = some id) (hD : id ∉ D) (warnings : List Warning)
    (calls : List (Time × ChannelId)) :
    ((p.reaping R D).withLogs warnings calls).isOverdue id now =
      (marked R p.now id s).isExpired now := by
  have hsession : ((p.reaping R D).withLogs warnings calls).sessions.get? id =
      some (marked R p.now id s) := by
    refine (get?_reaping hs R D).trans ?_
    rw [letGo, if_neg hD]
  have hchannel : ((p.reaping R D).withLogs warnings calls).channels.get? s.channel = some id := by
    refine (channels_reaping p R D s.channel).trans ?_
    rw [hlive, Option.filter_some, if_pos (decide_eq_true hD)]
  rw [isOverdue, isLive, hsession, Option.any_some, Option.any_some, channel_marked, hchannel]
  simp

/-- **A visit in a sweep.** If the session was silent for too long before the sweep, the hook has been
called after the visit, by this one or an earlier one; and the session is removed if it lapses.

**Proof sketch.** A sign of life makes no session silent, so a session that is found silent was so
from the start. One that was silent from the start but is not found so has been given a sign of life
by an earlier call of the hook; then it does not lapse, and the sessions in `R` all have been. -/
lemma visit_reaping (h : p.wiring.Sound) (hheard : p.Heard) (hhook : p.HookMarks R)
    (hM : M = [] ∨ M = R) (hlive : p.isLive id = true) (hD : id ∉ D) (warnings : List Warning)
    (calls : List (Time × ChannelId)) (reaped : List ChannelId) :
    ∃ warnings' calls',
      visit now ((p.reaping M D).withLogs warnings calls, reaped) id =
        ((p.reaping (if p.isSilent now id then R else M)
          (D ++ [id].filter (p.lapses R now))).withLogs warnings' calls',
        reaped ++ ([id].filter (p.lapses R now)).map p.channelOf) := by
  obtain ⟨s, hs, hchannel⟩ := (Option.any_eq_true _ _).1 hlive
  have hchannel : p.channels.get? s.channel = some id := eq_of_beq hchannel
  have hlast : s.lastReceived ≤ p.now := hheard id s hs
  rw [isSilent_of_get? hs]
  have hfound : ((p.reaping M D).withLogs warnings calls).sessions.get? id =
      some (marked M p.now id s) := by
    refine (get?_reaping hs M D).trans ?_
    rw [letGo, if_neg hD]
  unfold visit
  simp only [hfound]
  by_cases hfirst : (marked M p.now id s).isExpired now = true
  · have hsilent : s.isExpired now = true := isExpired_of_marked hlast hfirst
    rw [if_pos hfirst, if_pos hsilent, channel_marked]
    let q := ((p.reaping M D).withLogs warnings calls).report
      [((p.reaping M D).withLogs warnings calls).silenceReport (marked M p.now id s)]
    obtain ⟨calls', hcalled⟩ := callHook_eq (p := q) (R := R) hhook id s.channel
    have hmarked : q.callHook id s.channel = (p.reaping R D).withLogs q.warnings calls' := by
      rw [hcalled, ← marking_reaping hM D]
      rfl
    refine ⟨q.warnings, calls', ?_⟩
    rw [hmarked, isOverdue_reaping hs hchannel hD]
    have hlapses : p.lapses R now id = (marked R p.now id s).isExpired now := by
      rw [lapses_of_get? hs, hsilent, Bool.true_and]
    cases hsecond : (marked R p.now id s).isExpired now with
    | true =>
      rw [if_pos rfl, List.filter_cons_of_pos (hlapses.trans hsecond), reap_reaping h hchannel hD]
      simp [channelOf_of_get? hs]
    | false =>
      rw [List.filter_cons_of_neg (by rw [hlapses, hsecond]; exact Bool.false_ne_true)]
      simp
  · refine ⟨warnings, calls, ?_⟩
    rw [if_neg hfirst]
    have hkeeps : p.lapses R now id = false ∧ (if s.isExpired now then R else M) = M := by
      rw [lapses_of_get? hs]
      cases hsilent : s.isExpired now with
      | false => exact ⟨rfl, rfl⟩
      | true =>
        rcases hM with rfl | rfl
        · exact absurd hsilent hfirst
        · rw [Bool.eq_false_iff.2 hfirst]
          exact ⟨rfl, rfl⟩
    rw [hkeeps.2, List.filter_cons_of_neg (by rw [hkeeps.1]; exact Bool.false_ne_true)]
    simp

/-! ## A sweep -/

/-- **A sweep in a given order.** The sessions to which the hook gives signs of life get them if the
hook is called at all, and those that lapse are removed.

**Proof sketch.** Induction on the visits, from the last one on. -/
lemma sweepIn_eq (h : p.wiring.Sound) (hheard : p.Heard) (hhook : p.HookMarks R)
    (hnodup : order.Nodup) (hlive : ∀ id ∈ order, p.isLive id = true) (now : Time) :
    ∃ warnings calls, p.sweepIn order now =
      ((p.reaping (if order.any (p.isSilent now) then R else [])
        (order.filter (p.lapses R now))).withLogs warnings calls,
      (order.filter (p.lapses R now)).map p.channelOf) := by
  unfold sweepIn
  induction order using List.reverseRecOn with
  | nil =>
    refine ⟨p.warnings, p.hookCalls, ?_⟩
    simp only [List.foldl_nil, List.any_nil, List.filter_nil, Bool.false_eq_true, if_false,
      reaping_nil]
    rfl
  | append_singleton order id ih =>
    obtain ⟨horder, -, hfresh⟩ := List.nodup_append.1 hnodup
    have hid : id ∉ order.filter (p.lapses R now) := fun hmem =>
      hfresh id (List.mem_of_mem_filter hmem) id (List.mem_singleton_self id) rfl
    obtain ⟨warnings, calls, hsweep⟩ := ih horder fun id' hid' =>
      hlive id' (List.mem_append_left _ hid')
    have hM : (if order.any (p.isSilent now) then R else []) = [] ∨
        (if order.any (p.isSilent now) then R else []) = R := by
      split
      · exact Or.inr rfl
      · exact Or.inl rfl
    obtain ⟨warnings', calls', hvisit⟩ := visit_reaping h hheard hhook hM
      (hlive id (List.mem_append_right _ (List.mem_singleton_self id))) hid warnings calls
      ((order.filter (p.lapses R now)).map p.channelOf)
    refine ⟨warnings', calls', ?_⟩
    rw [List.foldl_append, hsweep, List.foldl_cons, List.foldl_nil, hvisit, List.filter_append,
      List.map_append, List.any_append]
    cases order.any (p.isSilent now) <;> cases hsilent : p.isSilent now id <;> simp [hsilent]

end LiveMedia.Provider
