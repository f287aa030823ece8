import LiveMedia.Proofs.Provider.Departures
import LiveMedia.Proofs.Provider.Registry

set_option autoImplicit false

/-!
# Deleting an application

An application that is deleted takes its channels with it: those that are bound to this very object,
and no others, whatever the names. The object stays as it is then, closed and without streams, for
whoever still holds it; an application that is created under its name is another one.

## Main definitions

* `LiveMedia.Provider.Evicted` — what the end of an application makes of a provider.
* `LiveMedia.Provider.Retired` — an application is closed, and the registry has let go of it.

## Main results

* `LiveMedia.Provider.evicted_evict` — what leaves with the application, and what is left.
* `LiveMedia.Provider.Retired.leads` — an application that has been deleted does not come back.
* `LiveMedia.Provider.deleteApplication_exact` — both together.
-/

namespace LiveMedia

/-- The keys of a table are those under which something is found. -/
lemma Table.mem_keys_iff {κ α : Type} [LT κ] [DecidableEq κ] [LE κ] [Std.LawfulOrderLT κ]
    {t : Table κ α} {key : κ} : key ∈ t.keys ↔ ∃ value, t.get? key = some value := by
  simp only [keys, List.mem_map, get?_eq_some_iff]
  constructor
  · rintro ⟨e, he, rfl⟩
    exact ⟨e.2, he⟩
  · rintro ⟨value, h⟩
    exact ⟨(key, value), h, rfl⟩

lemma Table.nodup_keys {κ α : Type} [LT κ] [LE κ] [Std.LawfulOrderLT κ] (t : Table κ α) :
    t.keys.Nodup := by
  refine List.pairwise_map.2 (t.sorted.imp ?_)
  rintro e f hlt heq
  rw [heq] at hlt
  exact Std.lt_irrefl hlt

namespace Provider

variable {p q r : Provider} {sid : SessionId} {c : ChannelId} {s : Session} {a : Application}
  {A : ApplicationId} {name : String}

/-! ## What leaves with an application -/

/-- What the end of an application makes of a provider, if it takes the channels in `gone` with
it. -/
structure Evicted (p : Provider) (A : ApplicationId) (gone : List ChannelId) (q : Provider) :
    Prop where
  nodup : gone.Nodup
  /-- They are the channels that are bound to this very application. -/
  mem_gone : ∀ c, c ∈ gone ↔ ∃ st, p.Carries c ⟨A, st⟩
  /-- Just these channels leave the table. -/
  channels : ∀ c, q.channels.get? c = if c ∈ gone then none else p.channels.get? c
  /-- They are counted as removed, and as those of an application. -/
  counters : q.counters = { p.counters with
    deleted := p.counters.deleted + gone.length
    evicted := p.counters.evicted + gone.length }
  /-- They are bound to nothing; all other sessions are as they were. -/
  session : ∀ sid, q.sessions.get? sid = (p.sessions.get? sid).map fun s =>
    if s.belongsTo A then { s with binding := none } else s
  /-- Their streams are closed. -/
  closed : ∀ c st, p.Carries c ⟨A, st⟩ →
    ∃ x, p.streams.get? st = some x ∧ q.streams.get? st = some x.close ∧ x.close.isClosed = true
  /-- All other streams are as they were. -/
  stream : ∀ st, (∀ c, ¬p.Carries c ⟨A, st⟩) → q.streams.get? st = p.streams.get? st
  /-- The application is closed, and all its streams are detached. -/
  application : ∃ a, p.applications.get? A = some a ∧
    q.applications.get? A = some { a with streams := ∅, closed := true }
  /-- All other applications are as they were. -/
  others : ∀ B, B ≠ A → q.applications.get? B = p.applications.get? B
  /-- Nothing else has changed but the registry. -/
  same : q = { p with
    sessions := q.sessions
    applications := q.applications
    streams := q.streams
    channels := q.channels
    counters := q.counters
    registry := q.registry }

/-- The sessions of the table that publish into an application. -/
def publishersOf (p : Provider) (A : ApplicationId) : Table ChannelId SessionId :=
  p.channels.filter fun _ sid => p.publishesInto A sid

lemma mem_keys_publishersOf : c ∈ (p.publishersOf A).keys ↔
    ∃ sid, p.channels.get? c = some sid ∧ p.publishesInto A sid = true := by
  simp only [Table.mem_keys_iff, publishersOf, Table.get?_filter, Option.filter_eq_some_iff]

/-- A session publishes into an application just if it is bound to it. -/
lemma mem_values_publishersOf (h : p.wiring.Sound) (hs : p.sessions.get? sid = some s) :
    sid ∈ (p.publishersOf A).values ↔ s.belongsTo A = true := by
  have hinto : p.publishesInto A sid = s.belongsTo A := by
    rw [publishesInto, hs, Option.any_some]
  rw [Table.mem_values_iff]
  constructor
  · rintro ⟨c, hc⟩
    rw [publishersOf, Table.get?_filter, Option.filter_eq_some_iff] at hc
    exact hinto ▸ hc.2
  · intro hbelongs
    obtain ⟨c, st, hp⟩ := publishesInto_iff.1 (hinto.trans hbelongs)
    have hc : p.channels.get? c = some sid := h.channel_of_publishes hp
    refine ⟨c, ?_⟩
    rw [publishersOf, Table.get?_filter, hc, Option.filter_some, if_pos (hinto.trans hbelongs)]

/-- What the sessions publish that publish into an application, they publish there. -/
lemma mem_bindingsOf_publishersOf (h : p.wiring.Sound) {b : Binding} :
    b ∈ p.bindingsOf (p.publishersOf A).values ↔ b.application = A ∧ ∃ c, p.Carries c b := by
  rw [mem_bindingsOf]
  constructor
  · rintro ⟨sid, hsid, s, hs, hb⟩
    have hbelongs := (mem_values_publishersOf h hs).1 hsid
    rw [Session.belongsTo, hb, Option.any_some] at hbelongs
    have hp : p.wiring.Publishes sid s.channel b := publishes_iff.2 ⟨s, hs, rfl, hb⟩
    exact ⟨eq_of_beq hbelongs, s.channel, (carries_iff h).2 ⟨sid, hp⟩⟩
  · rintro ⟨rfl, c, hcarries⟩
    obtain ⟨sid, hp⟩ := (carries_iff h).1 hcarries
    obtain ⟨s, hs, -, hb⟩ := publishes_iff.1 hp
    refine ⟨sid, (mem_values_publishersOf h hs).2 ?_, s, hs, hb⟩
    rw [Session.belongsTo, hb, Option.any_some]
    exact beq_self_eq_true _

/-- An application without streams is closed, and no stream with it. -/
lemma closeApplication_of_empty (h : (p.application A).streams = ∅) :
    p.closeApplication A =
      p.modifyApplication A fun _ => { p.application A with closed := true } := by
  unfold closeApplication Application.close
  simp only [h]
  rfl

/-- The provider once the channels of an application have been removed. -/
def vacating (p : Provider) (A : ApplicationId) : Provider :=
  { p.without (p.publishersOf A).values with
    channels := p.channels.filter fun _ sid => !p.publishesInto A sid
    counters := { p.counters with
      deleted := p.counters.deleted + (p.publishersOf A).size } }

/-- When its channels are gone, nothing is attached to the application. -/
lemma streams_vacating (h : p.wiring.Sound) :
    ((p.vacating A).application A).streams = ∅ := by
  refine Table.ext_get? fun name => ?_
  rw [Table.get?_empty, Option.eq_none_iff_forall_ne_some]
  rintro ⟨c, st⟩ he
  obtain ⟨hb, hentry⟩ := entry_without.1 he
  exact hb ((mem_bindingsOf_publishersOf h).2 ⟨rfl, c, ((entry_iff h).1 hentry).1⟩)

/-- The channels are removed first; then there is nothing left that is closed with the
application. -/
lemma evict_eq (h : p.wiring.Sound) (A : ApplicationId) :
    p.evict A = ((p.publishersOf A).size,
      ((p.vacating A).modifyApplication A fun _ =>
        { (p.vacating A).application A with closed := true }).count
          (·.evict (p.publishersOf A).size)) := by
  let kept : Provider :=
    { p with channels := p.channels.filter fun _ sid => !p.publishesInto A sid }
  have hkept : kept.wiring.Matched := h.toMatched.withChannels _
  have hreleased : (p.publishersOf A).values.foldl releaseDeleted kept = p.vacating A := by
    rw [foldl_releaseDeleted hkept, Table.values, List.length_map]
    rfl
  show ((p.publishersOf A).size, Provider.count (Provider.closeApplication
    ((p.publishersOf A).values.foldl releaseDeleted kept) A) _) = _
  rw [hreleased, closeApplication_of_empty (streams_vacating h)]
  rfl

/-- **What leaves with an application, and what is left.** -/
lemma evicted_evict (h : p.wiring.Sound) (ha : p.applications.get? A = some a) :
    Evicted p A (p.publishersOf A).keys (p.evict A).2 := by
  have happlication (B : ApplicationId) : (p.vacating A).applications.get? B =
      (p.applications.get? B).map
        (withoutStreams (p.bindingsOf (p.publishersOf A).values) B) :=
    Store.get?_mapIdx _ _ _
  have hmem (c : ChannelId) : c ∈ (p.publishersOf A).keys ↔ ∃ st, p.Carries c ⟨A, st⟩ := by
    simp only [mem_keys_publishersOf, publishesInto_iff, carries_iff h]
    constructor
    · rintro ⟨sid, hc, c', st, hp⟩
      obtain ⟨b, hb⟩ := h.session_of_channel hc
      cases hb.symm.trans hp
      exact ⟨st, sid, hp⟩
    · rintro ⟨st, sid, hp⟩
      exact ⟨sid, h.channel_of_publishes hp, c, st, hp⟩
  rw [evict_eq h A]
  constructor
  case nodup => exact Table.nodup_keys _
  case mem_gone => exact hmem
  case channels =>
    intro c
    show (p.channels.filter _).get? c = _
    rw [Table.get?_filter]
    split
    · next hc =>
      obtain ⟨sid, hsid, hinto⟩ := mem_keys_publishersOf.1 hc
      rw [hsid, Option.filter_some, hinto]
      rfl
    · next hc =>
      cases hsid : p.channels.get? c with
      | none => rfl
      | some sid =>
        have hnot : p.publishesInto A sid = false :=
          Bool.eq_false_iff.2 fun hinto => hc (mem_keys_publishersOf.2 ⟨sid, hsid, hinto⟩)
        rw [Option.filter_some, hnot]
        rfl
  case counters =>
    rw [Table.keys, List.length_map]
    rfl
  case session =>
    intro sid
    show (p.sessions.mapIdx _).get? sid = _
    rw [Store.get?_mapIdx]
    refine Option.map_congr fun s hs => ?_
    simp only [letGo, mem_values_publishersOf h hs]
  case closed =>
    intro c st hcarries
    obtain ⟨x, hx, -⟩ := hcarries.stream h
    exact ⟨x, hx, stream_without_of_mem
      ((mem_bindingsOf_publishersOf h).2 ⟨rfl, c, hcarries⟩) hx⟩
  case stream =>
    intro st hst
    refine stream_without_of_not_mem fun B hb => ?_
    obtain ⟨rfl, c, hcarries⟩ := (mem_bindingsOf_publishersOf h).1 hb
    exact hst c hcarries
  case application =>
    refine ⟨a, ha, ?_⟩
    have hvacant := streams_vacating h (A := A)
    have hget := happlication A
    rw [ha, Option.map_some] at hget
    rw [application_of_get? hget] at hvacant
    show ((p.vacating A).applications.modify A _).get? A = _
    rw [Store.get?_modify, if_pos rfl, application_of_get? hget, hget, Option.map_some]
    exact congrArg (fun streams => some { a with streams, closed := true }) hvacant
  case others =>
    intro B hB
    show ((p.vacating A).applications.modify A _).get? B = _
    rw [Store.get?_modify, if_neg hB, happlication]
    cases p.applications.get? B with
    | none => rfl
    | some b =>
      rw [Option.map_some, withoutStreams, Table.filter_eq_self]
      intro name e _
      refine decide_eq_true fun hb => hB ?_
      exact ((mem_bindingsOf_publishersOf h).1 hb).1
  case same => rfl

/-! ## What happens later -/

/-- The application of that name is closed, and the registry has let go of it. -/
structure Retired (p : Provider) (A : ApplicationId) (name : String) : Prop where
  closed : ∃ a, p.applications.get? A = some a ∧ a.closed = true ∧ a.name = name
  unregistered : ∀ n, p.registry.get? n ≠ some A

/-- **An application that has been deleted does not come back**, whatever happens. -/
lemma Retired.leads (h : p.Retired A name) (hq : Leads p q) : q.Retired A name := by
  obtain ⟨a, ha, hclosed, hname⟩ := h.closed
  obtain ⟨a', ha', hname', hclosed'⟩ := hq.registers.kept ha
  exact ⟨⟨a', ha', hclosed' hclosed, hname'.trans hname⟩, hq.not_registered ha h.unregistered⟩

/-- What is created under the name of a deleted application is another one, and a new one if the
name is free. -/
lemma Retired.createApplication (h : p.Retired A name) :
    (p.createApplication name).1 ≠ A ∧ (p.application? name = none →
      p.applications.get? (p.createApplication name).1 = none ∧
      (p.createApplication name).2.applications.get? (p.createApplication name).1 =
        some { name } ∧
      (p.createApplication name).2.application? name = some (p.createApplication name).1) := by
  unfold Provider.createApplication application?
  split
  · next B hB =>
    refine ⟨?_, fun hnone => ?_⟩
    · rintro rfl
      exact h.unregistered name hB
    · cases hB.symm.trans hnone
  · next hnone =>
    refine ⟨?_, fun _ => ⟨p.applications.get?_size, ?_, ?_⟩⟩
    · rintro rfl
      obtain ⟨a, ha, -⟩ := h.closed
      cases p.applications.get?_size.symm.trans ha
    · show (p.applications.add _).get? _ = _
      rw [Store.get?_add, if_pos rfl]
    · show (p.registry.insert _ _).get? _ = _
      rw [Table.get?_insert, if_pos rfl]

/-- **No channel is bound to an application that has been deleted**, and the attempt changes
nothing. -/
lemma Retired.bind (h : p.Retired A name) (c : ChannelId) (stream : String)
    (tracks : List TrackInfo) :
    ∃ e events, outcome (bind c ⟨A, stream, tracks⟩) p = (.error e, p.report events) ∧
      ∀ sid s, p.find? c = some (sid, s) → s.binding = none → e = .applicationClosed name := by
  obtain ⟨a, ha, hclosed, hname⟩ := h.closed
  have happlication : p.application A = a := application_of_get? ha
  have hunreported : p.report [] = p := by rw [report, List.append_nil]
  unfold Provider.bind
  rw [outcome_bind, outcome_find]
  cases hfind : p.find? c with
  | none =>
    refine ⟨.unknownChannel c, [], ?_, nofun⟩
    rw [hunreported]
  | some found =>
    obtain ⟨sid, s⟩ := found
    simp only [outcome_bind, outcome_get]
    cases hkey : p.publishedKey? s with
    | some key =>
      refine ⟨.streamInUse key, [], ?_, fun sid' s' hfound hidle => ?_⟩
      · rw [hunreported]
        rfl
      · cases hfound
        simp [publishedKey?, publishedStream?, hidle] at hkey
    | none =>
      obtain ⟨events, hmake⟩ := outcome_makeStream ⟨A, stream, tracks⟩ p
      refine ⟨.applicationClosed name, events, ?_, fun _ _ _ _ => rfl⟩
      have hreported : (p.report events).application A = a := happlication
      have hrefused (st : StreamId) (key : StreamKey) :
          a.attach c st key = .error (.applicationClosed name) := by
        rw [Application.attach, if_pos hclosed, hname]
      dsimp only
      rw [outcome_bind, hmake]
      dsimp only
      rw [outcome_bind, outcome_attachNew, hreported, hrefused]

/-! ## Both together -/

/-- **An application that is deleted takes just its own channels with it, and does not come back.**
Take any reachable state and an application of the registry. Its deletion removes just the channels
that are bound to this very object, and tells how many there were; so many are counted, as removed
and as those of an application. Their streams are detached and closed, and the application is left
closed and without streams, and out of the registry. All other sessions are as they were, and so are
all other applications and streams. Whatever happens later, an application that is created under the
name is another one, new, open and without streams unless there is one of that name by then; and no
channel is bound through the old object. The attempt is refused since the application is closed, if
there is nothing else that stands against it, and changes nothing but reports.

**Proof sketch.** In a reachable state the sessions that are bound to the application are all in the
table (`Wiring.Sound`), so when they have been let go the application has no streams left that would
be closed with it (`streams_vacating`). An application that is closed stays closed, and the registry
takes in new ones only (`Leads.registers`). -/
theorem deleteApplication_exact (hp : p.Reachable) (hA : p.application? name = some A) :
    let q := (p.deleteApplication name).2
    (∃ gone : List ChannelId, (p.deleteApplication name).1 = some gone.length ∧
      Evicted p A gone q) ∧
    q.registry = p.registry.erase name ∧ (∀ n, q.registry.get? n ≠ some A) ∧
    ∀ r, Leads q r →
      (r.createApplication name).1 ≠ A ∧
      (r.application? name = none →
        r.applications.get? (r.createApplication name).1 = none ∧
        (r.createApplication name).2.applications.get? (r.createApplication name).1 =
          some { name, streams := ∅, closed := false } ∧
        (r.createApplication name).2.application? name = some (r.createApplication name).1) ∧
      ∀ c stream tracks, ∃ e events,
        outcome (bind c ⟨A, stream, tracks⟩) r = (.error e, r.report events) ∧
        ∀ sid s, r.find? c = some (sid, s) → s.binding = none → e = .applicationClosed name := by
  intro q
  let unregistered : Provider := { p with registry := p.registry.erase name }
  have h : unregistered.wiring.Sound := hp.sound
  obtain ⟨a, ha, hname⟩ := hp.named name A hA
  have hdelete : p.deleteApplication name =
      (some (unregistered.evict A).1, (unregistered.evict A).2) := by
    have hregistry : p.registry.get? name = some A := hA
    unfold Provider.deleteApplication
    simp only [hregistry]
    rfl
  have hevicted : Evicted unregistered A (unregistered.publishersOf A).keys
      (unregistered.evict A).2 := evicted_evict h ha
  have hq : q = (unregistered.evict A).2 := congrArg Prod.snd hdelete
  have hregistry : q.registry = p.registry.erase name := by
    rw [hq, evict_eq h A]
    rfl
  have hgone : ∀ n, q.registry.get? n ≠ some A := by
    intro n hn
    rw [hregistry, Table.get?_erase] at hn
    split at hn
    · cases hn
    · next hne =>
      obtain ⟨a', ha', hname'⟩ := hp.named n A hn
      cases ha.symm.trans ha'
      exact hne (hname'.symm.trans hname)
  have hretired : q.Retired A name := by
    obtain ⟨a', ha', hleft⟩ := hevicted.application
    cases ha.symm.trans ha'
    rw [← hq] at hleft
    exact ⟨⟨{ a with streams := ∅, closed := true }, hleft, rfl, hname⟩, hgone⟩
  refine ⟨⟨(unregistered.publishersOf A).keys, ?_, ?_⟩, hregistry, hgone, fun r hr => ?_⟩
  · rw [hdelete, evict_eq h A, Table.keys, List.length_map]
    rfl
  · rw [hq]
    exact ⟨hevicted.nodup, hevicted.mem_gone, hevicted.channels, hevicted.counters,
      hevicted.session, hevicted.closed, hevicted.stream, hevicted.application, hevicted.others,
      hevicted.same⟩
  · have hlater := hretired.leads hr
    exact ⟨hlater.createApplication.1, hlater.createApplication.2, hlater.bind⟩

/-- An application of that name has been deleted before, and another one has a stream of the same
name. Two channels leave with the application, and a third one that is bound to nothing cannot be
bound to it any more. -/
theorem deleteApplication_exact_second_of_name :
    let p := run { name := "media" } [.createApplication "live",
      .createChannel 7 none (some ⟨0, "cam", []⟩), .deleteApplication "live",
      .createApplication "live", .createApplication "vod",
      .createChannel 7 none (some ⟨1, "cam", []⟩), .createChannel 8 none (some ⟨1, "mic", []⟩),
      .createChannel 9 none (some ⟨2, "cam", []⟩), .createChannel 5 none none]
    let q := (p.deleteApplication "live").2
    p.application? "live" = some 1 ∧ (p.deleteApplication "live").1 = some 2 ∧
      q.channels.keys = [5, 9] ∧ (∃ gone, Evicted p 1 gone q) ∧
      (q.createApplication "live").1 = 3 ∧
      ∃ events, outcome (bind 5 ⟨1, "new", []⟩) q =
        (.error (.applicationClosed "live"), q.report events) := by
  intro p q
  have hp : p.Reachable := reachable_run "media" {} _
  have hA : p.application? "live" = some 1 := by decide
  have hfind : q.find? 5 = some (4, ⟨5, 0, 0, 3000, none, {}⟩) := by decide
  obtain ⟨⟨gone, -, hevicted⟩, -, -, hlater⟩ := deleteApplication_exact hp hA
  obtain ⟨-, -, hbind⟩ := hlater q (.refl q)
  obtain ⟨e, events, hrefused, hclosed⟩ := hbind 5 "new" []
  obtain rfl := hclosed 4 _ hfind rfl
  exact ⟨hA, by decide, by decide, ⟨gone, hevicted⟩, by decide, events, hrefused⟩

end Provider

end LiveMedia
