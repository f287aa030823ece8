import LiveMedia.Proofs.Provider.Rewiring

set_option autoImplicit false

/-!
# Removing channels

Channels are taken out of the table first, one or several at a time, and let go after that. In
between the sessions and the applications still agree, but a session publishes that is not in the
table any more. Letting go ends that.

## Main definitions

* `LiveMedia.Wiring.Released` — what has changed once some sessions have been let go.

## Main results

* `LiveMedia.Provider.released_foldl` — sessions are let go one after another.
* `LiveMedia.Provider.sound_remove` — taking channels out and letting their sessions go.
* `LiveMedia.Provider.sound_evict` — and closing the application that they have published into.
-/

namespace LiveMedia

/-! ## Letting sessions go -/

/-- What has changed once some sessions have been let go: they publish no more. -/
structure Wiring.Released (w : Wiring) (ids : List SessionId) (w' : Wiring) : Prop where
  matched : w'.Matched
  publishes_iff : ∀ {sid c b}, w'.Publishes sid c b ↔ sid ∉ ids ∧ w.Publishes sid c b
  channel?_eq : w'.channel? = w.channel?
  /-- A session keeps its channel. -/
  session_of : ∀ {sid c b}, w.session? sid = some (c, b) → ∃ b', w'.session? sid = some (c, b')

namespace Wiring.Released

variable {w w' w'' : Wiring} {ids ids' : List SessionId}

lemma nil (h : w.Matched) : w.Released [] w where
  matched := h
  publishes_iff := by simp
  channel?_eq := rfl
  session_of hs := ⟨_, hs⟩

lemma append (h : w.Released ids w') (h' : w'.Released ids' w'') :
    w.Released (ids ++ ids') w'' where
  matched := h'.matched
  publishes_iff := by
    intro sid c b
    rw [h'.publishes_iff, h.publishes_iff, List.mem_append, not_or]
    exact and_left_comm.trans and_assoc.symm
  channel?_eq := h'.channel?_eq.trans h.channel?_eq
  session_of hs := by
    obtain ⟨b', hs'⟩ := h.session_of hs
    exact h'.session_of hs'

end Wiring.Released

namespace Provider

variable {p : Provider} {A : ApplicationId} {c : ChannelId} {sid : SessionId}

/-- A session is let go, whether it publishes or not. -/
lemma released_release (h : p.wiring.Matched) (sid : SessionId) :
    p.wiring.Released [sid] (p.release sid).wiring := by
  by_cases hp : ∃ c b, p.wiring.Publishes sid c b
  · obtain ⟨c, ⟨A, st⟩, hp⟩ := hp
    obtain ⟨key, hkey, -⟩ := h.entry_of_publishes hp
    rw [wiring_release h hp hkey]
    refine ⟨h.unpublish hp hkey, ?_, rfl, ?_⟩
    · intro sid' c' b'
      rw [Wiring.publishes_unpublish, List.mem_singleton]
    · intro sid' c' b' hs
      by_cases hsid : sid' = sid
      · subst hsid
        cases hs.symm.trans hp
        exact ⟨none, if_pos rfl⟩
      · exact ⟨b', (if_neg hsid).trans hs⟩
  · have hidle : ∀ c b, ¬p.wiring.Publishes sid c b := fun c b hb => hp ⟨c, b, hb⟩
    rw [wiring_release_of_idle hidle]
    refine ⟨h, ?_, rfl, fun hs => ⟨_, hs⟩⟩
    intro sid' c' b'
    rw [List.mem_singleton]
    refine ⟨fun hp' => ⟨?_, hp'⟩, And.right⟩
    rintro rfl
    exact hidle _ _ hp'

/-- Sessions are let go one after another. -/
lemma released_foldl (ids : List SessionId) (h : p.wiring.Matched) :
    p.wiring.Released ids (ids.foldl releaseDeleted p).wiring := by
  induction ids generalizing p with
  | nil => exact .nil h
  | cons sid ids ih =>
    have hfirst : p.wiring.Released [sid] (p.releaseDeleted sid).wiring := released_release h sid
    exact hfirst.append (ih hfirst.matched)

/-! ## Taking channels out of the table -/

/-- **Channels are taken out of the table, and their sessions are let go.** Whatever is not in the
table afterwards is to be among the sessions that are let go. -/
lemma sound_remove (h : p.wiring.Sound) (ids : List SessionId) (t : Table ChannelId SessionId)
    (hsub : ∀ c sid, t.get? c = some sid → p.channels.get? c = some sid)
    (hrest : ∀ c sid, p.channels.get? c = some sid → sid ∉ ids → t.get? c = some sid) :
    (ids.foldl releaseDeleted { p with channels := t }).wiring.Sound ∧
      ∀ {sid c b}, (ids.foldl releaseDeleted { p with channels := t }).wiring.Publishes sid c b ↔
        sid ∉ ids ∧ p.wiring.Publishes sid c b := by
  have hmatched : ({ p with channels := t } : Provider).wiring.Matched :=
    h.toMatched.withChannels t.get?
  have hreleased := released_foldl ids hmatched
  refine ⟨⟨hreleased.matched, ?_, ?_⟩, hreleased.publishes_iff⟩
  · intro c sid hc
    rw [hreleased.channel?_eq] at hc
    obtain ⟨b, hs⟩ := h.session_of_channel (hsub c sid hc)
    exact hreleased.session_of (w := ({ p with channels := t } : Provider).wiring) hs
  · intro sid c b hp
    obtain ⟨hsid, hold⟩ := hreleased.publishes_iff.1 hp
    rw [hreleased.channel?_eq]
    exact hrest c sid (h.channel_of_publishes hold) hsid

/-- The session of a channel is removed. -/
lemma sound_erase (h : p.wiring.Sound) (hc : p.channels.get? c = some sid) :
    ({ p with channels := p.channels.erase c }.releaseDeleted sid).wiring.Sound := by
  refine (sound_remove h [sid] (p.channels.erase c) ?_ ?_).1
  · intro c' sid' hc'
    rw [Table.get?_erase] at hc'
    split at hc'
    · cases hc'
    · exact hc'
  · intro c' sid' hc' hsid
    rw [Table.get?_erase, if_neg]
    · exact hc'
    · rintro rfl
      cases hc.symm.trans hc'
      exact hsid (.head _)

/-- A channel is removed. -/
lemma sound_deleteChannel (h : p.wiring.Sound) (c : ChannelId) :
    (p.deleteChannel c).2.wiring.Sound := by
  unfold deleteChannel
  split
  · exact h
  · rename_i sid hc
    exact sound_erase h hc

/-- All channels are removed. -/
lemma sound_clear (h : p.wiring.Sound) : p.clear.2.wiring.Sound := by
  refine (sound_remove h p.channels.values ∅ ?_ ?_).1
  · intro c sid hc
    cases hc
  · intro c sid hc hsid
    exact absurd (Table.mem_values_iff.2 ⟨c, hc⟩) hsid

/-- The session publishes into the application. -/
lemma publishesInto_iff : p.publishesInto A sid = true ↔
    ∃ c st, p.wiring.Publishes sid c ⟨A, st⟩ := by
  simp only [publishesInto, Session.belongsTo, Option.any_eq_true, beq_iff_eq]
  constructor
  · rintro ⟨s, hs, ⟨B, st⟩, hb, rfl⟩
    exact ⟨s.channel, st, publishes_iff.2 ⟨s, hs, rfl, hb⟩⟩
  · rintro ⟨c, st, hp⟩
    obtain ⟨s, hs, -, hb⟩ := publishes_iff.1 hp
    exact ⟨s, hs, ⟨A, st⟩, hb, rfl⟩

/-- **An application is closed, with all channels that publish into it.**

**Proof sketch.** Every session that publishes into the application is in the table, so it is among
those that are let go; afterwards the application has no streams, and is closed. -/
lemma sound_evict (h : p.wiring.Sound) (A : ApplicationId) : (p.evict A).2.wiring.Sound := by
  let evicted := p.channels.filter fun _ sid => p.publishesInto A sid
  let rest := p.channels.filter fun _ sid => !p.publishesInto A sid
  have hevicted : ∀ {c sid}, p.channels.get? c = some sid → p.publishesInto A sid = true →
      sid ∈ evicted.values := by
    intro c sid hc hsid
    refine Table.mem_values_iff.2 ⟨c, ?_⟩
    rw [Table.get?_filter, hc, Option.filter_some, if_pos hsid]
  obtain ⟨hsound, hpublishes⟩ := sound_remove h evicted.values rest
    (by
      intro c sid hc
      rw [Table.get?_filter] at hc
      exact Option.eq_some_of_filter_eq_some hc)
    (by
      intro c sid hc hsid
      rw [Table.get?_filter, hc, Option.filter_some, if_pos]
      rw [Bool.not_eq_true', Bool.eq_false_iff]
      exact fun hinto => hsid (hevicted hc hinto))
  -- whoever still published into the application would be among those that were let go
  have hempty : ∀ name, (evicted.values.foldl releaseDeleted
      { p with channels := rest }).wiring.entry? A name = none := by
    intro name
    rw [Option.eq_none_iff_forall_ne_some]
    rintro ⟨c, st⟩ he
    obtain ⟨sid, _, hp, -⟩ := hsound.publishes_of_entry he
    obtain ⟨hsid, hold⟩ := hpublishes.1 hp
    exact hsid (hevicted (h.channel_of_publishes hold) (publishesInto_iff.2 ⟨c, st, hold⟩))
  have hclose := wiring_closeApplication hempty
  show (Provider.closeApplication _ A).wiring.Sound
  rw [hclose]
  exact ⟨hsound.toMatched.shutting hempty, hsound.session_of_channel, hsound.channel_of_publishes⟩

/-- An application of the provider is closed. -/
lemma sound_deleteApplication (h : p.wiring.Sound) (name : String) :
    (p.deleteApplication name).2.wiring.Sound := by
  unfold deleteApplication
  split
  · exact h
  · rename_i id _
    exact sound_evict (p := { p with registry := p.registry.erase name }) h id

/-- What each step keeps sound is sound after all of them. -/
lemma sound_foldl {α : Type} {f : Provider → α → Provider}
    (hf : ∀ {q : Provider} (x : α), q.wiring.Sound → (f q x).wiring.Sound) (xs : List α)
    (h : p.wiring.Sound) : (xs.foldl f p).wiring.Sound := by
  induction xs generalizing p with
  | nil => exact h
  | cons x xs ih => exact ih (hf x h)

/-- All channels are removed and all applications closed. -/
lemma sound_shutdown (h : p.wiring.Sound) : p.shutdown.wiring.Sound := by
  have hclear := sound_clear (p := { p with due := none }) h
  exact sound_foldl (fun A hq => sound_evict hq A) _ hclear

/-! ## Sweeps -/

/-- A session that is in the table is there under the number of its channel. -/
lemma channel_of_isLive {q : Provider} {s : Session} (hwiring : q.wiring = p.wiring)
    (hs : p.sessions.get? sid = some s) (hlive : q.isLive sid = true) :
    q.channels.get? s.channel = some sid := by
  obtain ⟨s', hs', hchannel⟩ := (Option.any_eq_true _ _).1 hlive
  have hsession : q.wiring.session? sid = some (s.channel, s.binding) := by
    rw [hwiring]
    exact session?_eq_some_iff.2 ⟨s, hs, rfl, rfl⟩
  obtain ⟨s'', hs'', hsame, -⟩ := session?_eq_some_iff.1 hsession
  cases hs'.symm.trans hs''
  rw [← hsame]
  exact eq_of_beq hchannel

/-- A session is visited in a sweep. If it is removed, it is in the table under its number. -/
lemma sound_visit {s : Provider × List ChannelId} (h : s.1.wiring.Sound) (now : Time)
    (sid : SessionId) : (visit now s sid).1.wiring.Sound := by
  obtain ⟨p, reaped⟩ := s
  unfold visit
  dsimp only
  split
  · exact h
  · rename_i session hs
    split
    · have hcalled : ((p.report [p.silenceReport session]).callHook sid session.channel).wiring =
          p.wiring := by
        rw [wiring_callHook, wiring_report]
      split
      · rename_i hover
        refine sound_erase (hcalled ▸ h) ?_
        -- the hook leaves the table, so the session is there under the number it was visited with
        exact channel_of_isLive hcalled hs (Bool.and_eq_true_iff.1 hover).1
      · rw [hcalled]
        exact h
    · exact h

/-- A sweep, in whatever order it visits the sessions. -/
lemma sound_sweepIn (h : p.wiring.Sound) (order : List SessionId) (now : Time) :
    (p.sweepIn order now).1.wiring.Sound := by
  have hfold : ∀ {s : Provider × List ChannelId}, s.1.wiring.Sound →
      (order.foldl (visit now) s).1.wiring.Sound := by
    induction order with
    | nil => exact fun hs => hs
    | cons sid order ih => exact fun hs => ih (sound_visit hs now sid)
  exact hfold h

end Provider

end LiveMedia
