import LiveMedia.Proofs.Provider.SignsOfLife

set_option autoImplicit false

/-!
# What a sweep removes

A sweep removes a channel only if it has been silent for too long at the time of the sweep, and it
leaves no such channel that it visits. This holds with any hook that gives no signs of life.

## Main definitions

* `LiveMedia.Provider.HookQuiet` — the hook, if there is one, gives no signs of life.
* `LiveMedia.Provider.Visits` — what a visit in a sweep may be.

## Main results

* `LiveMedia.Provider.spares_sweepIn` — a sweep leaves the life of every session as it is.
* `LiveMedia.Provider.isExpired_of_sweepIn` — what it removes was silent for too long.
* `LiveMedia.Provider.not_isExpired_of_sweepIn` — what it visits and leaves was not.
-/

namespace LiveMedia.Provider

variable {p q : Provider} {sid id : SessionId} {c : ChannelId} {l : Life} {now : Time}
  {K : SessionId → Prop}

/-- No call of the hook gives a sign of life. -/
def HookQuiet (p : Provider) : Prop :=
  ∀ hook ∈ p.hook, ∀ id c, hook.refreshes id c = []

lemma HookQuiet.of_hook_eq (h : p.HookQuiet) (heq : q.hook = p.hook) : q.HookQuiet := by
  rw [HookQuiet, heq]
  exact h

/-- A quiet hook is only reported. -/
lemma alike_callHook (h : p.HookQuiet) (id : SessionId) (c : ChannelId) :
    Alike p (p.callHook id c) := by
  unfold callHook
  split
  · exact .refl p
  · next hook hhook =>
    rw [h hook hhook]
    exact ⟨rfl, rfl, rfl, rfl, rfl, rfl⟩

/-! ## Removing a session -/

lemma channels_release (p : Provider) (id : SessionId) : (p.release id).channels = p.channels := by
  unfold release
  split
  · rfl
  · split <;> rfl

lemma channels_reap (p : Provider) (id : SessionId) (c : ChannelId) :
    (p.reap id c).channels = p.channels.erase c :=
  channels_release { p with channels := p.channels.erase c } id

lemma spares_reap (p : Provider) (id : SessionId) (c : ChannelId) : Spares K p (p.reap id c) :=
  ((spares_erase p c).trans (spares_releaseDeleted _ id)).trans ((alike_count _ _).spares K)

/-- A session that is removed under its own number leaves the table, and no other one does. -/
lemma isLive_reap_iff (sid : SessionId) (hlife : p.life? id = some l) (hlive : p.isLive id = true) :
    (p.reap id l.channel).isLive sid = true ↔ sid ≠ id ∧ p.isLive sid = true := by
  have hspares : Spares (fun _ => True) p (p.reap id l.channel) := spares_reap p id l.channel
  have hid : p.channels.get? l.channel = some id := (isLive_iff_of_life? hlife).1 hlive
  rw [isLive_iff, isLive_iff, hspares.life sid trivial]
  constructor
  · rintro ⟨l', hl', hchannel⟩
    rw [channels_reap, Table.get?_erase] at hchannel
    split at hchannel
    · cases hchannel
    · next hne =>
      refine ⟨?_, l', hl', hchannel⟩
      rintro rfl
      rw [hlife] at hl'
      cases hl'
      exact hne rfl
  · rintro ⟨hne, l', hl', hchannel⟩
    refine ⟨l', hl', ?_⟩
    rw [channels_reap, Table.get?_erase, if_neg, hchannel]
    intro heq
    rw [heq, hid] at hchannel
    exact hne (Option.some.inj hchannel).symm

/-! ## A visit -/

/-- What a visit to the session `id` in a sweep at `now` makes of the provider: the session stays,
if it is gone already or has not been silent for too long, or it is removed. -/
inductive Visits (now : Time) (p : Provider) (id : SessionId) : Provider → Prop
  | keeps {q : Provider} (hsame : Alike p q)
      (hkeep : p.isLive id = true → ∀ l ∈ p.life? id, l.isExpired now = false) : Visits now p id q
  | reaps {q : Provider} {l : Life} (hsame : Alike p q) (hlive : p.isLive id = true)
      (hlife : p.life? id = some l) (hexpired : l.isExpired now = true) :
      Visits now p id (q.reap id l.channel)

lemma visits (h : p.HookQuiet) (now : Time) (reaped : List ChannelId) (id : SessionId) :
    Visits now p id (visit now (p, reaped) id).1 := by
  unfold visit
  dsimp only
  cases hs : p.sessions.get? id with
  | none =>
    refine .keeps (.refl p) fun _ l hl => ?_
    rw [life?, hs] at hl
    cases hl
  | some session =>
    have hlife : p.life? id = some session.life := life?_eq_some_iff.2 ⟨session, hs, rfl⟩
    by_cases hexpired : session.isExpired now = true
    · let called := (p.report [p.silenceReport session]).callHook id session.channel
      have hsame : Alike p called :=
        (alike_report p _).trans (alike_callHook (p := p.report _) h id session.channel)
      -- the hook changed nothing, so the second look finds what the first one found
      have hover : called.isOverdue id now = p.isLive id := by
        rw [isOverdue, isLive, isLive, hsame.sessions, hsame.channels, hs, Option.any_some,
          Option.any_some, hexpired, Bool.and_true]
      simp only [hexpired, if_true]
      by_cases hlive : p.isLive id = true
      · rw [if_pos (hover.trans hlive)]
        exact .reaps hsame hlive hlife hexpired
      · rw [if_neg (by rw [hover]; exact hlive)]
        exact .keeps hsame fun hlive' => absurd hlive' hlive
    · simp only [hexpired]
      refine .keeps (.refl p) fun _ l hl => ?_
      rw [hlife] at hl
      cases hl
      exact Bool.eq_false_iff.2 hexpired

lemma Visits.spares (h : Visits now p id q) : Spares K p q := by
  cases h with
  | keeps hsame => exact hsame.spares K
  | reaps hsame => exact (hsame.spares K).trans (spares_reap _ id _)

lemma Alike.isLive_eq (h : Alike p q) (sid : SessionId) : q.isLive sid = p.isLive sid := by
  rw [isLive, isLive, h.sessions, h.channels]

/-- A visit removes only the session that it visits, and only if that was silent for too long. -/
lemma Visits.isExpired (h : Visits now p id q) (hlive : p.isLive sid = true)
    (hgone : q.isLive sid = false) : ∃ l ∈ p.life? sid, l.isExpired now = true := by
  cases h with
  | keeps hsame =>
    rw [hsame.isLive_eq, hlive] at hgone
    cases hgone
  | @reaps q' l hsame hid hlife hexpired =>
    have hspares : Spares (fun _ => True) p q' := hsame.spares _
    have hiff := isLive_reap_iff sid ((hspares.life id trivial).trans hlife)
      ((hsame.isLive_eq id).trans hid)
    rw [hsame.isLive_eq, hlive] at hiff
    by_cases heq : sid = id
    · rw [heq]
      exact ⟨l, hlife, hexpired⟩
    · rw [hiff.2 ⟨heq, rfl⟩] at hgone
      cases hgone

/-- A session that stays after a visit has not been silent for too long. -/
lemma Visits.not_isExpired (h : Visits now p id q) (hlive : q.isLive id = true) :
    ∀ l ∈ p.life? id, l.isExpired now = false := by
  cases h with
  | keeps hsame hkeep =>
    apply hkeep
    rw [← hsame.isLive_eq]
    exact hlive
  | @reaps q' l hsame hid hlife hexpired =>
    have hspares : Spares (fun _ => True) p q' := hsame.spares _
    have hiff := isLive_reap_iff id ((hspares.life id trivial).trans hlife)
      ((hsame.isLive_eq id).trans hid)
    exact absurd rfl (hiff.1 hlive).1

/-! ## A sweep -/

/-- A sweep from a state on, with the channels that were removed before. -/
lemma spares_foldl_visit (h : p.HookQuiet) (now : Time) (order : List SessionId)
    (reaped : List ChannelId) :
    Spares K p (order.foldl (visit now) (p, reaped)).1 := by
  induction order generalizing p reaped with
  | nil => exact .refl K p
  | cons id order ih =>
    have hvisit : Spares K p (visit now (p, reaped) id).1 := (visits h now reaped id).spares
    exact hvisit.trans (ih (h.of_hook_eq hvisit.hook) _)

/-- **A sweep leaves the life of every session as it is.** -/
lemma spares_sweepIn (h : p.HookQuiet) (order : List SessionId) (now : Time) :
    Spares K p (p.sweepIn order now).1 :=
  spares_foldl_visit h now order []

/-- **A sweep removes only what was silent for too long.**

**Proof sketch.** Induction on the visits. The first one that removes the session finds it silent
for too long, and no visit before that changes its life. -/
lemma isExpired_of_sweepIn (h : p.HookQuiet) {order : List SessionId}
    (hlive : p.isLive sid = true) (hgone : (p.sweepIn order now).1.isLive sid = false) :
    ∃ l ∈ p.life? sid, l.isExpired now = true := by
  rw [sweepIn] at hgone
  generalize ([] : List ChannelId) = reaped at hgone
  induction order generalizing p reaped with
  | nil =>
    rw [List.foldl_nil, hlive] at hgone
    cases hgone
  | cons id order ih =>
    have hvisit := visits h now reaped id
    have hspares : Spares (fun _ => True) p (visit now (p, reaped) id).1 := hvisit.spares
    cases hstays : (visit now (p, reaped) id).1.isLive sid with
    | false => exact hvisit.isExpired hlive hstays
    | true =>
      rw [← hspares.life sid trivial]
      exact ih (h.of_hook_eq hspares.hook) hstays _ hgone

/-- **A sweep leaves nothing that it visits and that was silent for too long.**

**Proof sketch.** Induction on the visits. A session that is in the table at the end was there after
each visit, the one to itself among them. -/
lemma not_isExpired_of_sweepIn (h : p.HookQuiet) {order : List SessionId} (hsid : sid ∈ order)
    (hlive : (p.sweepIn order now).1.isLive sid = true) :
    ∀ l ∈ p.life? sid, l.isExpired now = false := by
  rw [sweepIn] at hlive
  generalize ([] : List ChannelId) = reaped at hlive
  induction order generalizing p reaped with
  | nil => cases hsid
  | cons id order ih =>
    have hvisit := visits h now reaped id
    have hspares : Spares (fun _ => True) p (visit now (p, reaped) id).1 := hvisit.spares
    have hquiet := h.of_hook_eq hspares.hook
    rcases List.mem_cons.1 hsid with rfl | hsid
    · have hrest := spares_foldl_visit (K := fun _ => True) hquiet now order
        (visit now (p, reaped) sid).2
      exact hvisit.not_isExpired (hrest.live sid trivial hlive)
    · rw [← hspares.life sid trivial]
      exact ih hquiet hsid _ hlive

/-- A session that is in the table is visited in a sweep over all channels. -/
lemma mem_values_of_isLive (h : p.isLive sid = true) : sid ∈ p.channels.values := by
  obtain ⟨l, -, hchannel⟩ := isLive_iff.1 h
  exact Table.mem_values_iff.2 ⟨l.channel, hchannel⟩

/-- After a sweep over all channels no channel of the table has been silent for too long. -/
lemma not_isExpired_of_sweep (h : p.HookQuiet) (hlive : (p.sweep now).1.isLive sid = true) :
    ∀ l ∈ p.life? sid, l.isExpired now = false := by
  have hspares : Spares (fun _ => True) p (p.sweep now).1 := spares_sweepIn h _ now
  exact not_isExpired_of_sweepIn h (mem_values_of_isLive (hspares.live sid trivial hlive)) hlive

end LiveMedia.Provider
