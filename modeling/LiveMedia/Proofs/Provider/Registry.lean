import LiveMedia.Proofs.Provider.Reachable

set_option autoImplicit false

/-!
# Applications over time

An application is an object that keeps its name; once it is closed it stays closed. The registry
takes in new applications only, so one that it has let go of does not come back.

## Main definitions

* `LiveMedia.Provider.Registers` — applications stay what they are, and new ones are registered at
  most.
* `LiveMedia.Provider.Named` — the registry knows its applications by their names.

## Main results

* `LiveMedia.Provider.Leads.registers` — whatever happens, the applications stay what they are.
* `LiveMedia.Provider.Reachable.named` — the registry in reachable states.
* `LiveMedia.Provider.Leads.not_registered` — an application that is not in the registry does not
  come back.
-/

namespace LiveMedia

/-- An application that gives up a stream keeps its name, and is open or closed as before. -/
lemma Application.detach_keeps (a : Application) (c : ChannelId) :
    (a.detach c).2.name = a.name ∧ (a.detach c).2.closed = a.closed := by
  unfold detach
  split <;> exact ⟨rfl, rfl⟩

namespace Provider

variable {p q r : Provider} {c : ChannelId} {a : Application} {A : ApplicationId} {name : String}

/-- The applications keep their names, and those that are closed stay closed. Whatever is newly
registered is a new application of that name. -/
structure Registers (p q : Provider) : Prop where
  kept : ∀ {A a}, p.applications.get? A = some a →
    ∃ a', q.applications.get? A = some a' ∧ a'.name = a.name ∧
      (a.closed = true → a'.closed = true)
  registered : ∀ {name A}, q.registry.get? name = some A →
    p.registry.get? name = some A ∨
      p.applications.get? A = none ∧ ∃ a, q.applications.get? A = some a ∧ a.name = name

namespace Registers

lemma of_eq (happlications : q.applications = p.applications) (hregistry : q.registry = p.registry) :
    Registers p q where
  kept {A a} ha := ⟨a, by rw [happlications, ha], rfl, id⟩
  registered h := Or.inl (by rwa [hregistry] at h)

lemma refl (p : Provider) : Registers p p :=
  of_eq rfl rfl

lemma trans (h : Registers p q) (h' : Registers q r) : Registers p r where
  kept ha := by
    obtain ⟨a', ha', hname, hclosed⟩ := h.kept ha
    obtain ⟨a'', ha'', hname', hclosed'⟩ := h'.kept ha'
    exact ⟨a'', ha'', hname'.trans hname, hclosed' ∘ hclosed⟩
  registered {name A} hA := by
    rcases h'.registered hA with hold | ⟨hnone, hnew⟩
    · rcases h.registered hold with hold | ⟨hnone, a, ha, rfl⟩
      · exact Or.inl hold
      · obtain ⟨a', ha', hname, -⟩ := h'.kept ha
        exact Or.inr ⟨hnone, a', ha', hname⟩
    · refine Or.inr ⟨?_, hnew⟩
      cases hA : p.applications.get? A with
      | none => rfl
      | some a =>
        obtain ⟨a', ha', -⟩ := h.kept hA
        cases hnone.symm.trans ha'

lemma foldl {α : Type} {f : Provider → α → Provider} (hf : ∀ q x, Registers q (f q x))
    (xs : List α) (p : Provider) : Registers p (xs.foldl f p) := by
  induction xs generalizing p with
  | nil => exact .refl p
  | cons x xs ih => exact (hf p x).trans (ih (f p x))

end Registers

/-! ## Parts of operations -/

lemma registers_report (p : Provider) (events : List Warning) : Registers p (p.report events) :=
  .of_eq rfl rfl

lemma registers_count (p : Provider) (event : TableCounters → TableCounters) :
    Registers p (p.count event) :=
  .of_eq rfl rfl

lemma registers_channels (p : Provider) (t : Table ChannelId SessionId) :
    Registers p { p with channels := t } :=
  .of_eq rfl rfl

lemma registers_modifySession (p : Provider) (sid : SessionId) (f : Session → Session) :
    Registers p (p.modifySession sid f) :=
  .of_eq rfl rfl

lemma registers_modifyStream (p : Provider) (st : StreamId) (f : Stream → Stream) :
    Registers p (p.modifyStream st f) :=
  .of_eq rfl rfl

lemma registers_modifyApplication (p : Provider) (A : ApplicationId)
    {f : Application → Application}
    (hf : ∀ a, p.applications.get? A = some a →
      (f a).name = a.name ∧ (a.closed = true → (f a).closed = true)) :
    Registers p (p.modifyApplication A f) := by
  refine ⟨fun {B b} hb => ?_, fun h => Or.inl h⟩
  have hmodified : (p.modifyApplication A f).applications.get? B =
      if B = A then (p.applications.get? B).map f else p.applications.get? B :=
    Store.get?_modify _ _ _ _
  rw [hmodified]
  split
  · next hB =>
    subst hB
    obtain ⟨hname, hclosed⟩ := hf b hb
    exact ⟨f b, by rw [hb, Option.map_some], hname, hclosed⟩
  · exact ⟨b, hb, rfl, id⟩

lemma registers_addApplication (p : Provider) (name : String) :
    Registers p { p with applications := p.applications.add { name } } := by
  refine ⟨fun {B b} hb => ⟨b, ?_, rfl, id⟩, fun h => Or.inl h⟩
  show (p.applications.add _).get? B = some b
  rw [Store.get?_add, if_neg, hb]
  rintro rfl
  cases p.applications.get?_size.symm.trans hb

lemma registers_release (p : Provider) (sid : SessionId) : Registers p (p.release sid) := by
  unfold release
  split
  · exact .refl p
  · next session _ =>
    split
    · exact .refl p
    · next binding _ =>
      have hidle := registers_modifySession p sid fun s => { s with binding := none }
      refine (hidle.trans (registers_modifyApplication _ binding.application fun a _ => ?_)).trans
        (registers_modifyStream _ _ _)
      obtain ⟨hname, hclosed⟩ := a.detach_keeps session.channel
      exact ⟨hname, hclosed.symm ▸ id⟩

lemma registers_releaseDeleted (p : Provider) (sid : SessionId) :
    Registers p (p.releaseDeleted sid) :=
  (registers_release p sid).trans (registers_count _ _)

lemma registers_foldl_releaseDeleted (ids : List SessionId) (p : Provider) :
    Registers p (ids.foldl releaseDeleted p) :=
  .foldl registers_releaseDeleted ids p

lemma registers_closeApplication (p : Provider) (A : ApplicationId) :
    Registers p (p.closeApplication A) := by
  refine (registers_modifyApplication p A fun a ha => ?_).trans
    (.foldl (fun q st => registers_modifyStream q st _) _ _)
  rw [application_of_get? ha]
  exact ⟨rfl, fun _ => rfl⟩

lemma registers_evict (p : Provider) (A : ApplicationId) : Registers p (p.evict A).2 := by
  let evicted := p.channels.filter fun _ id => p.publishesInto A id
  have hkept := registers_channels p (p.channels.filter fun _ id => !p.publishesInto A id)
  have hreleased := hkept.trans (registers_foldl_releaseDeleted evicted.values _)
  exact (hreleased.trans (registers_closeApplication _ A)).trans
    (registers_count _ fun n => n.evict evicted.size)

/-- The registry lets names go. -/
lemma registers_unregister (p : Provider) {t : Table String ApplicationId}
    (ht : ∀ name A, t.get? name = some A → p.registry.get? name = some A) :
    Registers p { p with registry := t } :=
  ⟨fun {_ a} ha => ⟨a, ha, rfl, id⟩, fun h => Or.inl (ht _ _ h)⟩

lemma registers_deleteApplication (p : Provider) (name : String) :
    Registers p (p.deleteApplication name).2 := by
  unfold deleteApplication
  split
  · exact .refl p
  · next A _ =>
    refine (registers_unregister p (t := p.registry.erase name) fun n B h => ?_).trans
      (registers_evict _ A)
    rw [Table.get?_erase] at h
    split at h
    · cases h
    · exact h

lemma registers_createApplication (p : Provider) (name : String) :
    Registers p (p.createApplication name).2 := by
  unfold createApplication
  split
  · exact .refl p
  · have hadded := registers_addApplication p name
    refine ⟨hadded.kept, fun {n A} h => ?_⟩
    have hinsert : (p.registry.insert name p.applications.size).get? n = some A := h
    rw [Table.get?_insert] at hinsert
    split at hinsert
    · next hn =>
      cases hinsert
      refine Or.inr ⟨p.applications.get?_size, { name }, ?_, hn.symm⟩
      show (p.applications.add _).get? _ = _
      rw [Store.get?_add, if_pos rfl]
    · exact Or.inl hinsert

lemma registers_clear (p : Provider) : Registers p p.clear.2 := by
  exact (registers_channels p ∅).trans (registers_foldl_releaseDeleted _ _)

lemma registers_shutdown (p : Provider) : Registers p p.shutdown := by
  have hstopped : Registers p { p with due := none } := .of_eq rfl rfl
  have hcleared := hstopped.trans (registers_clear _)
  have hforgotten := hcleared.trans (registers_unregister _ (t := ∅) fun name A h => by cases h)
  exact hforgotten.trans (.foldl registers_evict _ _)

/-- An application takes a stream in. -/
lemma registers_attach {st : StreamId} {key : StreamKey}
    (h : (p.application A).attach c st key = .ok a) :
    Registers p (p.modifyApplication A fun _ => a) := by
  obtain ⟨-, -, rfl⟩ := Application.attach_eq_ok_iff.1 h
  refine registers_modifyApplication p A fun b hb => ?_
  rw [application_of_get? hb]
  exact ⟨rfl, id⟩

/-! ## Creation and binding -/

lemma registers_enrollInSteps (p : Provider) (c : ChannelId) (past : Past) (timeout : Option Nat)
    (bound : Option (Binding × StreamKey)) :
    Registers p (outcome (enrollInSteps c past timeout bound) p).2 := by
  rw [outcome_enrollInSteps]
  dsimp only
  split
  · exact .refl p
  split
  · exact .of_eq rfl rfl
  · next b key =>
    split
    · next a ha =>
      have hentered : Registers p (p.entered (p.newSession c past timeout (some b))) := .of_eq rfl rfl
      exact (hentered.trans (registers_attach (p := p.entered _) ha)).trans (.of_eq rfl rfl)
    · exact .of_eq rfl rfl

lemma registers_enroll (p : Provider) (c : ChannelId) (past : Past) (timeout : Option Nat)
    (stream : Option (ApplicationId × Stream)) :
    Registers p (outcome (enroll c past timeout stream) p).2 := by
  have hsteps := enroll_eq_enrollInSteps c past timeout stream p
  rcases hout : outcome (enroll c past timeout stream) p with ⟨e | id, q⟩ <;> rw [hout] at hsteps
  · rw [hsteps.1]
    exact .refl p
  · have hholding : Registers p (p.holding stream) := .of_eq rfl rfl
    have henrolled := registers_enrollInSteps (p.holding stream) c past timeout (p.boundTo stream)
    rw [hsteps] at henrolled
    exact hholding.trans henrolled

lemma registers_createChannel (p : Provider) (c : ChannelId) (timeout : Option Nat)
    (target : Option Publication) :
    Registers p (outcome (createChannel c timeout target) p).2 := by
  unfold createChannel
  rw [outcome_bind]
  cases target with
  | none => exact registers_enroll p c (.ago 0) timeout none
  | some target =>
    obtain ⟨events, hmake⟩ := outcome_makeStream target p
    simp only [Option.mapM_some, outcome_map, outcome_bind, hmake, outcome_pure, Except.map]
    exact (registers_report p events).trans (registers_enroll _ c (.ago 0) timeout _)

lemma registers_bind (p : Provider) (c : ChannelId) (target : Publication) :
    Registers p (outcome (bind c target) p).2 := by
  unfold bind
  rw [outcome_bind, outcome_find]
  cases p.find? c with
  | none => exact .refl p
  | some found =>
    obtain ⟨id, session⟩ := found
    simp only [outcome_bind, outcome_get]
    cases p.publishedKey? session with
    | some key => exact .refl p
    | none =>
      obtain ⟨events, hmake⟩ := outcome_makeStream target p
      simp only [outcome_bind, hmake, outcome_attachNew]
      have hreported := registers_report p events
      cases ha : ((p.report events).application target.application).attach c
        (p.report events).streams.size _ with
      | error e => exact hreported
      | ok a => exact (hreported.trans (registers_attach ha)).trans (.of_eq rfl rfl)

lemma registers_publish (p : Provider) (c : ChannelId) (application stream : String)
    (tracks : List TrackInfo) :
    Registers p (outcome (publish c application stream tracks) p).2 := by
  unfold publish
  rw [outcome_bind, outcome_get]
  dsimp only
  split
  · exact .refl p
  · exact registers_bind p c _

/-! ## Data and sweeps -/

lemma registers_ingest (p : Provider) (c : ChannelId) (packet : Packet) :
    Registers p (outcome (ingest c packet) p).2 := by
  unfold ingest
  rw [outcome_bind, outcome_get]
  dsimp only
  cases p.find? c with
  | none =>
    show Registers p (p.dropUnknown c)
    unfold dropUnknown
    dsimp only
    split <;> exact .of_eq rfl rfl
  | some found =>
    dsimp only
    cases p.publishedStream? found.2 with
    | none => exact .of_eq rfl rfl
    | some published =>
      dsimp only
      split <;> exact .of_eq rfl rfl

lemma registers_touch (p : Provider) (c : ChannelId) : Registers p (p.touch c).2 := by
  unfold touch
  split <;> exact .of_eq rfl rfl

lemma registers_setTimeout (p : Provider) (c : ChannelId) (timeout : Nat) :
    Registers p (outcome (setTimeout c timeout) p).2 := by
  unfold setTimeout
  rw [outcome_bind, outcome_find]
  cases p.find? c <;> exact .of_eq rfl rfl

lemma registers_deleteChannel (p : Provider) (c : ChannelId) :
    Registers p (p.deleteChannel c).2 := by
  unfold deleteChannel
  split
  · exact .refl p
  · next sid _ =>
    exact (registers_channels p _).trans (registers_releaseDeleted _ sid)

lemma registers_callHook (p : Provider) (sid : SessionId) (c : ChannelId) :
    Registers p (p.callHook sid c) := by
  unfold callHook
  split
  · exact .refl p
  · next hook _ =>
    have hcalled : Registers p { p with hookCalls := p.hookCalls ++ [(p.now, c)] } := .of_eq rfl rfl
    exact hcalled.trans (.foldl (fun q id => registers_modifySession q id _) _ _)

lemma registers_visit (now : Time) (x : Provider × List ChannelId) (sid : SessionId) :
    Registers x.1 (visit now x sid).1 := by
  obtain ⟨p, reaped⟩ := x
  unfold visit
  dsimp only
  split
  · exact .refl p
  · next session _ =>
    split
    · have hcalled := (registers_report p [p.silenceReport session]).trans
        (registers_callHook _ sid session.channel)
      split
      · exact ((hcalled.trans (registers_channels _ _)).trans
          (registers_releaseDeleted _ sid)).trans (registers_count _ _)
      · exact hcalled
    · exact .refl p

lemma registers_sweepIn (p : Provider) (order : List SessionId) (now : Time) :
    Registers p (p.sweepIn order now).1 := by
  suffices h : ∀ x : Provider × List ChannelId, Registers x.1 (order.foldl (visit now) x).1 from
    h (p, [])
  induction order with
  | nil => exact fun x => .refl x.1
  | cons sid order ih => exact fun x => (registers_visit now x sid).trans (ih _)

lemma registers_tick (p : Provider) (next : Time) : Registers p (p.tick next) :=
  (registers_sweepIn p p.channels.values p.now).trans (.of_eq rfl rfl)

lemma registers_sleep (p : Provider) (ms : Nat) : Registers p (p.sleep ms) := by
  have htickAt (q : Provider) (time : Time) : Registers q (q.tickAt time) := by
    have hmoved : Registers q { q with now := time } := .of_eq rfl rfl
    exact hmoved.trans (registers_tick _ _)
  exact (Registers.foldl htickAt _ p).trans (.of_eq rfl rfl)

lemma registers_jump (p : Provider) (ms : Nat) : Registers p (p.jump ms) := by
  have hmoved : Registers p { p with now := p.now + ms } := .of_eq rfl rfl
  unfold jump
  dsimp only
  split
  · exact hmoved
  · split
    · exact hmoved.trans (registers_tick _ _)
    · exact hmoved.trans (.foldl (fun q _ => registers_tick q _) _ _)

lemma registers_start (p : Provider) : Registers p p.start := by
  unfold start
  split
  · exact .refl p
  · exact registers_tick p _

/-! ## Whatever happens -/

lemma registers_apply (p : Provider) (op : Op) : Registers p (p.apply op) := by
  cases op with
  | createApplication name => exact registers_createApplication p name
  | newApplication name => exact registers_addApplication p name
  | enroll c past timeout stream => exact registers_enroll p c past timeout _
  | createChannel c timeout target => exact registers_createChannel p c timeout target
  | bind c target => exact registers_bind p c target
  | publish c application stream tracks => exact registers_publish p c application stream tracks
  | ingest c packet => exact registers_ingest p c packet
  | touch c => exact registers_touch p c
  | setTimeout c timeout => exact registers_setTimeout p c timeout
  | deleteChannel c => exact registers_deleteChannel p c
  | evict A => exact registers_evict p A
  | deleteApplication name => exact registers_deleteApplication p name
  | sweep order now => exact registers_sweepIn p order now
  | clear => exact registers_clear p
  | shutdown => exact registers_shutdown p
  | setHook hook => exact .of_eq rfl rfl
  | start => exact registers_start p
  | sleep ms => exact registers_sleep p ms
  | jump ms => exact registers_jump p ms

/-- **Whatever happens, the applications stay what they are.** -/
theorem Leads.registers (h : Leads p q) : Registers p q := by
  refine h.induction (motive := Registers p) (.refl p) fun r a ha hr => hr.trans ?_
  cases a with
  | op o => exact registers_apply r o
  | mark sid => exact .of_eq rfl rfl
  | retime sid timeout => exact .of_eq rfl rfl
  | streams f => exact .of_eq rfl rfl
  | applications f => exact absurd ha id
  | logs f g => exact .of_eq rfl rfl

/-- The registry knows its applications by their names. -/
def Named (p : Provider) : Prop :=
  ∀ name A, p.registry.get? name = some A → ∃ a, p.applications.get? A = some a ∧ a.name = name

lemma Named.of_registers (h : p.Named) (hq : Registers p q) : q.Named := by
  intro name A hA
  rcases hq.registered hA with hold | ⟨-, hnew⟩
  · obtain ⟨a, ha, hname⟩ := h name A hold
    obtain ⟨a', ha', hname', -⟩ := hq.kept ha
    exact ⟨a', ha', hname'.trans hname⟩
  · exact hnew

/-- **In every reachable state the registry knows its applications by their names.** -/
theorem Reachable.named (h : p.Reachable) : p.Named := by
  obtain ⟨name, settings, hp⟩ := h
  have hnew : Named { name, settings } := nofun
  exact hnew.of_registers hp.registers

/-- **An application that is not in the registry does not come back.** -/
lemma Leads.not_registered (h : Leads p q) (ha : p.applications.get? A = some a)
    (hA : ∀ name, p.registry.get? name ≠ some A) : ∀ name, q.registry.get? name ≠ some A := by
  intro name hname
  rcases h.registers.registered hname with hold | ⟨hnone, -⟩
  · exact hA name hold
  · cases hnone.symm.trans ha

end Provider

end LiveMedia
