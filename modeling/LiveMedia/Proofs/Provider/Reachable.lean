import LiveMedia.Proofs.Provider.Clock
import LiveMedia.Proofs.Provider.Refusals

set_option autoImplicit false

/-!
# Reachable states

A state is reachable if it comes of a new provider by operations, and by what the holders of its
objects do with them: they give sessions signs of life and timeouts, and streams take tracks and
release packets. Applications are used through the provider only, and nobody else closes a stream.

In such a state the wiring is sound, and no session has given a sign of life that is still to come.

## Main definitions

* `LiveMedia.Provider.Act.IsOrderly`, `LiveMedia.Provider.Leads` — what may happen.
* `LiveMedia.Provider.Reachable` — a new provider leads to the state.
* `LiveMedia.Provider.Freshens` — the clock stands still, and signs of life are given at most.

## Main results

* `LiveMedia.Provider.Reachable.sound`, `LiveMedia.Provider.Reachable.inTime` — the invariants of
  reachable states.
* `LiveMedia.Provider.reachable_run` — what operations make of a new provider is reachable.
-/

namespace LiveMedia.Provider

/-! ## What may happen -/

/-- The act uses applications through the provider only, and closes no stream. -/
def Act.IsOrderly : Act → Prop
  | .streams f => ∀ streams st, ((f streams).get? st).map (fun x => (x.key, x.isClosed)) =
      (streams.get? st).map fun x => (x.key, x.isClosed)
  | .applications _ => False
  | _ => True

/-- The one state comes of the other. -/
def Leads (p q : Provider) : Prop :=
  ∃ acts : List Act, (∀ a ∈ acts, a.IsOrderly) ∧ q = p.perform acts

/-- The state comes of a new provider. -/
def Reachable (p : Provider) : Prop :=
  ∃ name settings, Leads { name, settings } p

variable {p q r : Provider} {sid id : SessionId} {c : ChannelId} {s : Session} {a : Act}
  {A : ApplicationId} {n : String}

lemma Leads.refl (p : Provider) : Leads p p :=
  ⟨[], List.forall_mem_nil _, rfl⟩

/-- What every act keeps holds of every state that comes of the first one. -/
lemma Leads.induction {motive : Provider → Prop} (h : Leads p q) (hp : motive p)
    (hact : ∀ r a, a.IsOrderly → motive r → motive (r.act a)) : motive q := by
  obtain ⟨acts, hacts, rfl⟩ := h
  induction acts generalizing p with
  | nil => exact hp
  | cons a acts ih =>
    exact ih (hact p a (hacts a List.mem_cons_self) hp) fun b hb =>
      hacts b (List.mem_cons_of_mem a hb)

lemma Leads.trans (h : Leads p q) (h' : Leads q r) : Leads p r := by
  obtain ⟨acts, hacts, rfl⟩ := h
  obtain ⟨acts', hacts', rfl⟩ := h'
  refine ⟨acts ++ acts', fun a ha => ?_, List.foldl_append.symm⟩
  rcases List.mem_append.1 ha with ha | ha
  · exact hacts a ha
  · exact hacts' a ha

lemma Reachable.leads (h : p.Reachable) (h' : Leads p q) : q.Reachable := by
  obtain ⟨name, settings, hp⟩ := h
  exact ⟨name, settings, hp.trans h'⟩

lemma leads_run (p : Provider) (ops : List Op) : Leads p (p.run ops) := by
  refine ⟨ops.map .op, fun a ha => ?_, ?_⟩
  · obtain ⟨op, -, rfl⟩ := List.mem_map.1 ha
    trivial
  · rw [perform, List.foldl_map]
    rfl

lemma reachable_run (name : String) (settings : Settings) (ops : List Op) :
    (run { name, settings } ops).Reachable :=
  ⟨name, settings, leads_run _ ops⟩

/-! ## Who publishes what -/

lemma sound_act (h : p.wiring.Sound) (ha : a.IsOrderly) : (p.act a).wiring.Sound := by
  cases a with
  | op o => exact sound_apply h o
  | mark id => exact (wiring_markReceived p id).symm ▸ h
  | retime id timeout =>
    have hwiring : (p.act (.retime id timeout)).wiring = p.wiring :=
      wiring_modifySession p id (fun _ => rfl) (fun _ => rfl)
    exact hwiring.symm ▸ h
  | streams f =>
    have hwiring : (p.act (.streams f)).wiring = p.wiring :=
      congrArg (fun stream? => { p.wiring with stream? }) (funext (ha p.streams))
    exact hwiring.symm ▸ h
  | applications f => exact absurd ha id
  | logs f g => exact h

/-- **The wiring is sound in every reachable state.** -/
theorem Reachable.sound (h : p.Reachable) : p.wiring.Sound := by
  obtain ⟨name, settings, hp⟩ := h
  exact hp.induction (motive := fun q => q.wiring.Sound) (sound_new name settings)
    fun r a ha hr => sound_act hr ha

/-! ## Signs of life and the clock -/

/-- The clock stands still, and sessions may have given a sign of life. -/
structure Freshens (p q : Provider) : Prop where
  now : q.now = p.now
  due : q.due = p.due
  settings : q.settings = p.settings
  received : ∀ sid s', q.sessions.get? sid = some s' →
    s'.lastReceived ≤ p.now ∨ ∃ s, p.sessions.get? sid = some s ∧ s'.lastReceived = s.lastReceived

namespace Freshens

lemma refl (p : Provider) : Freshens p p :=
  ⟨rfl, rfl, rfl, fun _ s hs => Or.inr ⟨s, hs, rfl⟩⟩

lemma trans (h : Freshens p q) (h' : Freshens q r) : Freshens p r where
  now := h'.now.trans h.now
  due := h'.due.trans h.due
  settings := h'.settings.trans h.settings
  received sid s' hs' := by
    rcases h'.received sid s' hs' with hnow | ⟨s, hs, heq⟩
    · exact Or.inl (hnow.trans_eq h.now)
    · rw [heq]
      exact h.received sid s hs

lemma foldl {α : Type} {f : Provider → α → Provider} (hf : ∀ q x, Freshens q (f q x))
    (xs : List α) (p : Provider) : Freshens p (xs.foldl f p) := by
  induction xs generalizing p with
  | nil => exact .refl p
  | cons x xs ih => exact (hf p x).trans (ih (f p x))

end Freshens

/-- Who keeps the life of every session gives no sign of life. -/
lemma Spares.freshens (h : Spares (fun _ => True) p q) : Freshens p q where
  now := h.now
  due := h.due
  settings := h.settings
  received sid s' hs' := by
    have hlife : p.life? sid = some s'.life := by
      rw [← h.life sid trivial]
      exact life?_eq_some_iff.2 ⟨s', hs', rfl⟩
    obtain ⟨s, hs, heq⟩ := life?_eq_some_iff.1 hlife
    exact Or.inr ⟨s, hs, (congrArg Life.lastReceived heq).symm⟩

lemma Alike.freshens (h : Alike p q) : Freshens p q :=
  (h.spares _).freshens

/-- A session changes, but not into the future. -/
lemma freshens_modifySession (p : Provider) (id : SessionId) {f : Session → Session}
    (hf : ∀ s, (f s).lastReceived ≤ p.now ∨ (f s).lastReceived = s.lastReceived) :
    Freshens p (p.modifySession id f) := by
  refine ⟨rfl, rfl, rfl, fun sid s' hs' => ?_⟩
  have hmodified : (p.sessions.modify id f).get? sid = some s' := hs'
  rw [Store.get?_modify] at hmodified
  split at hmodified
  · obtain ⟨s, hs, rfl⟩ := Option.map_eq_some_iff.1 hmodified
    exact (hf s).imp_right fun heq => ⟨s, hs, heq⟩
  · exact Or.inr ⟨s', hmodified, rfl⟩

lemma freshens_markReceived (p : Provider) (id : SessionId) : Freshens p (p.markReceived id) :=
  freshens_modifySession p id fun _ => Or.inl le_rfl

lemma freshens_callHook (p : Provider) (id : SessionId) (c : ChannelId) :
    Freshens p (p.callHook id c) := by
  unfold callHook
  split
  · exact .refl p
  · next hook _ =>
    have hcalled : Alike p { p with hookCalls := p.hookCalls ++ [(p.now, c)] } :=
      ⟨rfl, rfl, rfl, rfl, rfl, rfl⟩
    exact hcalled.freshens.trans (.foldl freshens_markReceived _ _)

lemma freshens_visit (now : Time) (x : Provider × List ChannelId) (id : SessionId) :
    Freshens x.1 (visit now x id).1 := by
  obtain ⟨p, reaped⟩ := x
  unfold visit
  dsimp only
  split
  · exact .refl p
  · next session _ =>
    split
    · have hcalled : Freshens p ((p.report [p.silenceReport session]).callHook id session.channel) :=
        (alike_report p _).freshens.trans (freshens_callHook _ _ _)
      split
      · exact hcalled.trans (spares_reap _ id _).freshens
      · exact hcalled
    · exact .refl p

/-- Whatever the hook is, a sweep gives no signs of life that are still to come. -/
lemma freshens_sweepIn (p : Provider) (order : List SessionId) (now : Time) :
    Freshens p (p.sweepIn order now).1 := by
  suffices h : ∀ x : Provider × List ChannelId, Freshens x.1 (order.foldl (visit now) x).1 from
    h (p, [])
  induction order with
  | nil => exact fun x => .refl x.1
  | cons id order ih => exact fun x => (freshens_visit now x id).trans (ih _)

/-- A new session has given its last sign of life by now. -/
lemma freshens_withChannel (p : Provider) {s : Session} (hs : s.lastReceived ≤ p.now) :
    Freshens p (p.withChannel s) := by
  refine ⟨rfl, rfl, rfl, fun sid s' hs' => ?_⟩
  have hadd : (p.sessions.add s).get? sid = some s' := hs'
  rw [Store.get?_add] at hadd
  split at hadd
  · cases hadd
    exact Or.inl hs
  · exact Or.inr ⟨s', hadd, rfl⟩

lemma Enrolls.freshens {past : Past} {timeout : Option Nat}
    {x : Except ProviderError SessionId × Provider} (h : Enrolls p c past timeout x) :
    Freshens p x.2 := by
  cases h with
  | refused e hsame => exact hsame.freshens
  | created binding hsame =>
    exact hsame.freshens.trans (freshens_withChannel _ (Nat.sub_le _ past.silence))

lemma Receives.freshens {x : Except ProviderError Unit × Provider} (h : Receives p c x) :
    Freshens p x.2 := by
  cases h with
  | refused e h => exact (h _).freshens
  | @accepted q id size hc hsame =>
    have hcounted : Freshens (q.markReceived id) (q.accept id size) :=
      freshens_modifySession _ id fun _ => Or.inr rfl
    exact (hsame.freshens.trans (freshens_markReceived q id)).trans hcounted

lemma freshens_touch (p : Provider) (c : ChannelId) : Freshens p (p.touch c).2 := by
  unfold touch
  split
  · exact freshens_markReceived p _
  · exact .refl p

lemma freshens_setTimeout (p : Provider) (c : ChannelId) (timeout : Nat) :
    Freshens p (outcome (setTimeout c timeout) p).2 := by
  unfold setTimeout
  rw [outcome_bind, outcome_find]
  cases p.find? c with
  | none => exact .refl p
  | some found => exact freshens_modifySession p _ fun _ => Or.inr rfl

/-- No session has given a sign of life that is still to come. -/
def Heard (p : Provider) : Prop :=
  ∀ sid s, p.sessions.get? sid = some s → s.lastReceived ≤ p.now

lemma Heard.of_freshens (h : p.Heard) (hq : Freshens p q) : q.Heard := by
  intro sid s' hs'
  rw [hq.now]
  rcases hq.received sid s' hs' with hnow | ⟨s, hs, heq⟩
  · exact hnow
  · exact heq ▸ h sid s hs

/-- The clock moves on. -/
lemma Heard.wait (h : p.Heard) {time : Time} (hnow : p.now ≤ time) :
    Heard { p with now := time } :=
  fun sid s hs => (h sid s hs).trans hnow

lemma now_tick (p : Provider) (next : Time) : (p.tick next).now = p.now :=
  (freshens_sweepIn p p.channels.values p.now).now

lemma settings_tick (p : Provider) (next : Time) : (p.tick next).settings = p.settings :=
  (freshens_sweepIn p p.channels.values p.now).settings

lemma Heard.tick (h : p.Heard) (next : Time) : (p.tick next).Heard := by
  have hswept : (p.sweep p.now).1.Heard := h.of_freshens (freshens_sweepIn p _ p.now)
  exact hswept

/-- No session has given a sign of life that is still to come, and the reaper has not missed a
sweep. -/
structure InTime (p : Provider) : Prop where
  heard : p.Heard
  due : ∀ d ∈ p.due, p.now ≤ d

namespace InTime

lemma of_freshens (h : p.InTime) (hq : Freshens p q) : q.InTime where
  heard := h.heard.of_freshens hq
  due d hd := by
    rw [hq.due] at hd
    rw [hq.now]
    exact h.due d hd

lemma of_due (h : p.Heard) {d : Time} (hdue : p.due = some d) (hd : p.now ≤ d) : p.InTime := by
  refine ⟨h, fun d' hd' => ?_⟩
  cases hdue.symm.trans hd'
  exact hd

lemma of_stopped (h : p.Heard) (hdue : p.due = none) : p.InTime := by
  refine ⟨h, fun d hd => ?_⟩
  cases hdue.symm.trans hd

/-- A sweep at the clock, with the next one an interval later. -/
lemma tick (h : p.Heard) (interval : Time) : (p.tick (p.now + interval)).InTime := by
  refine of_due (h.tick _) rfl ?_
  rw [now_tick]
  exact Nat.le_add_right _ _

end InTime

/-- **Induction on the sweeps that are due.** What holds of the time that is due next holds again
after the sweep, of the time one interval later; at last that time lies ahead. -/
lemma foldl_tickTimes {f : Provider → Time → Provider} {motive : Provider → Time → Prop}
    {interval target d : Nat} (hinterval : 0 < interval) (hp : motive p d)
    (hstep : ∀ q d, d ≤ target → motive q d → motive (f q d) (d + interval)) :
    ∃ d', target < d' ∧ motive ((tickTimes d interval target).foldl f p) d' := by
  generalize hn : target + 1 - d = n
  induction n using Nat.strong_induction_on generalizing p d with
  | _ n ih =>
    by_cases hahead : target < d
    · rw [tickTimes_of_lt hahead]
      exact ⟨d, hahead, hp⟩
    · have hd : d ≤ target := Nat.le_of_not_lt hahead
      rw [tickTimes_of_le hinterval hd, List.foldl_cons]
      have hless : target + 1 - (d + interval) < n := by
        rw [← hn]
        omega
      exact ih _ hless (hstep p d hd hp) rfl

namespace InTime

lemma sleep (h : p.InTime) (ms : Nat) : (p.sleep ms).InTime := by
  have htarget : p.now ≤ p.now + ms := Nat.le_add_right _ _
  unfold Provider.sleep dueTimes
  dsimp only
  cases hdue : p.due with
  | none => exact of_stopped (h.heard.wait htarget) hdue
  | some d =>
    let motive (q : Provider) (d : Time) : Prop :=
      q.InTime ∧ q.now ≤ p.now + ms ∧ q.due = some d ∧ q.settings = p.settings
    have hstep (q : Provider) (d : Time) (hd : d ≤ p.now + ms) (hq : motive q d) :
        motive (q.tickAt d) (d + p.settings.sweepInterval) := by
      obtain ⟨hq, -, hdue, hsettings⟩ := hq
      have hwoken : Heard { q with now := d } := hq.heard.wait (hq.due d hdue)
      refine ⟨tick hwoken _, (now_tick _ _).trans_le hd, ?_, (settings_tick _ _).trans hsettings⟩
      rw [← hsettings]
      rfl
    obtain ⟨d', hahead, hq, hnow, hd', -⟩ := foldl_tickTimes (motive := motive)
      (Settings.sweepInterval_pos p.settings) ⟨h, htarget, hdue, rfl⟩ hstep
    exact of_due (hq.heard.wait hnow) hd' hahead.le

lemma jump (h : p.InTime) (ms : Nat) : (p.jump ms).InTime := by
  let moved : Provider := { p with now := p.now + ms }
  have hmoved : moved.Heard := h.heard.wait (Nat.le_add_right _ _)
  unfold Provider.jump
  dsimp only
  split
  · next hdue => exact of_stopped hmoved hdue
  · next d hdue =>
    split
    · exact tick hmoved _
    · let motive (q : Provider) (d : Time) : Prop :=
        q.Heard ∧ q.now = moved.now ∧ q.due = some d
      have hstep (q : Provider) (d : Time) (_ : d ≤ moved.now) (hq : motive q d) :
          motive (q.tick (d + moved.settings.sweepInterval))
            (d + moved.settings.sweepInterval) :=
        ⟨hq.1.tick _, (now_tick q _).trans hq.2.1, rfl⟩
      obtain ⟨d', hahead, hq, hnow, hd'⟩ := foldl_tickTimes (motive := motive)
        (Settings.sweepInterval_pos moved.settings) ⟨hmoved, rfl, hdue⟩ hstep
      exact of_due hq hd' (hnow.trans_le hahead.le)

lemma apply (h : p.InTime) (op : Op) : (p.apply op).InTime := by
  cases op with
  | createApplication name => exact h.of_freshens (alike_createApplication p name).freshens
  | newApplication name => exact ⟨h.heard, h.due⟩
  | enroll c past timeout stream => exact h.of_freshens (enrolls_enroll p c past timeout _).freshens
  | createChannel c timeout target =>
    exact h.of_freshens (enrolls_createChannel p c timeout target).freshens
  | bind c target => exact h.of_freshens (spares_bind p c target).freshens
  | publish c application stream tracks =>
    exact h.of_freshens (spares_publish p c application stream tracks).freshens
  | ingest c packet => exact h.of_freshens (receives_ingest p c packet).freshens
  | touch c => exact h.of_freshens (freshens_touch p c)
  | setTimeout c timeout => exact h.of_freshens (freshens_setTimeout p c timeout)
  | deleteChannel c => exact h.of_freshens (spares_deleteChannel p c).freshens
  | evict A => exact h.of_freshens (spares_evict p A).freshens
  | deleteApplication name => exact h.of_freshens (spares_deleteApplication p name).freshens
  | sweep order now => exact h.of_freshens (freshens_sweepIn p order now)
  | clear => exact h.of_freshens (spares_clear p).freshens
  | shutdown =>
    have hstopped : InTime { p with due := none } := of_stopped h.heard rfl
    exact hstopped.of_freshens (spares_shutdown p).freshens
  | setHook hook => exact ⟨h.heard, h.due⟩
  | start =>
    show (p.start).InTime
    unfold start
    split
    · exact h
    · exact tick h.heard _
  | sleep ms => exact h.sleep ms
  | jump ms => exact h.jump ms

lemma act (h : p.InTime) (a : Act) : (p.act a).InTime := by
  cases a with
  | op o => exact h.apply o
  | mark id => exact h.of_freshens (freshens_markReceived p id)
  | retime id timeout => exact h.of_freshens (freshens_modifySession p id fun _ => Or.inr rfl)
  | streams f => exact ⟨h.heard, h.due⟩
  | applications f => exact ⟨h.heard, h.due⟩
  | logs f g => exact ⟨h.heard, h.due⟩

end InTime

/-- **In no reachable state has a session given a sign of life that is still to come.** -/
theorem Reachable.inTime (h : p.Reachable) : p.InTime := by
  obtain ⟨name, settings, hp⟩ := h
  exact hp.induction ⟨nofun, nofun⟩ fun r a _ hr => hr.act a

end LiveMedia.Provider
