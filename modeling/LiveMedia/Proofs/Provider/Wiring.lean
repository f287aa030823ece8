import LiveMedia.Provider.Basic
import Mathlib.Tactic.Lemma

set_option autoImplicit false

/-!
# The wiring of a provider

Which channel publishes which stream into which application is kept twice: in the sessions of the
channels, and in the applications. The wiring is what is left of a provider if everything else is
forgotten. It changes in two ways only: a channel starts to publish a stream, or it ceases to.

## Main definitions

* `LiveMedia.Wiring`, `LiveMedia.Provider.wiring` — the applications, streams and sessions of a
  provider, as far as they have to do with who publishes what.
* `LiveMedia.Wiring.publish`, `LiveMedia.Wiring.unpublish` — the changes.
* `LiveMedia.Wiring.Matched` — the sessions and the applications agree.
* `LiveMedia.Wiring.Sound` — and the sessions that publish are those of the channel table.

## Main results

* `LiveMedia.Wiring.Matched.publish`, `LiveMedia.Wiring.Matched.unpublish`,
  `LiveMedia.Wiring.Matched.shut` — every change keeps them in agreement.

## Design

A session that is taken out of the channel table goes on publishing until it is released, and
several are taken out at a time. So `Wiring.Matched` says nothing about the channel table;
`Wiring.Sound` does, and holds between two operations only.
-/

namespace LiveMedia

/-- What a provider keeps about who publishes what. -/
@[ext] structure Wiring where
  /-- What an application has under a name. -/
  entry? : ApplicationId → String → Option Attached
  /-- The application takes no more streams. -/
  shut : ApplicationId → Bool
  /-- The key of a stream, and whether it is closed. -/
  stream? : StreamId → Option (StreamKey × Bool)
  /-- The channel of a session, and what it publishes. -/
  session? : SessionId → Option (ChannelId × Option Binding)
  /-- The session that the channel table holds under a number. -/
  channel? : ChannelId → Option SessionId

namespace Wiring

/-- A session publishes a stream over its channel. -/
def Publishes (w : Wiring) (sid : SessionId) (c : ChannelId) (b : Binding) : Prop :=
  w.session? sid = some (c, some b)

/-- The sessions and the applications agree about who publishes what. -/
structure Matched (w : Wiring) : Prop where
  /-- A stream that is published is open, and its application has it under its name. -/
  entry_of_publishes : ∀ {sid c A st}, w.Publishes sid c ⟨A, st⟩ →
    ∃ key, w.stream? st = some (key, false) ∧ w.entry? A key.name = some ⟨c, st⟩
  /-- What an application has is published, and is there under its name. -/
  publishes_of_entry : ∀ {A name c st}, w.entry? A name = some ⟨c, st⟩ →
    ∃ sid key, w.Publishes sid c ⟨A, st⟩ ∧ w.stream? st = some (key, false) ∧ key.name = name
  /-- An open stream is published. -/
  publishes_of_open : ∀ {st key}, w.stream? st = some (key, false) →
    ∃ sid c A, w.Publishes sid c ⟨A, st⟩
  /-- An application that takes no more streams has none. -/
  entry_of_shut : ∀ {A}, w.shut A = true → ∀ name, w.entry? A name = none
  /-- No two sessions publish over one channel. -/
  eq_of_channel : ∀ {sid sid' c b b'}, w.Publishes sid c b → w.Publishes sid' c b' → sid = sid'
  /-- No two sessions publish one stream. -/
  eq_of_stream : ∀ {sid sid' c c' A A' st}, w.Publishes sid c ⟨A, st⟩ →
    w.Publishes sid' c' ⟨A', st⟩ → sid = sid'

variable {w : Wiring} {sid sid' : SessionId} {c c' : ChannelId} {b b' : Binding}
  {A : ApplicationId} {st : StreamId} {key : StreamKey}

/-! ## Changes -/

/-- An application has a new stream under the name of its key. -/
def attach (w : Wiring) (c : ChannelId) (A : ApplicationId) (st : StreamId) (key : StreamKey) :
    Wiring :=
  { w with
    entry? := fun B n => if B = A ∧ n = key.name then some ⟨c, st⟩ else w.entry? B n
    stream? := fun id => if id = st then some (key, false) else w.stream? id }

/-- An application has a stream no more, which is closed. -/
def detach (w : Wiring) (A : ApplicationId) (st : StreamId) (key : StreamKey) : Wiring :=
  { w with
    entry? := fun B n => if B = A ∧ n = key.name then none else w.entry? B n
    stream? := fun id => if id = st then some (key, true) else w.stream? id }

/-- A session is there over a channel, with what it publishes. -/
def setSession (w : Wiring) (sid : SessionId) (c : ChannelId) (b : Option Binding) : Wiring :=
  { w with session? := fun id => if id = sid then some (c, b) else w.session? id }

/-- A session publishes a new stream over its channel. -/
def publish (w : Wiring) (sid : SessionId) (c : ChannelId) (A : ApplicationId) (st : StreamId)
    (key : StreamKey) : Wiring :=
  (w.attach c A st key).setSession sid c (some ⟨A, st⟩)

/-- A session ceases to publish its stream. -/
def unpublish (w : Wiring) (sid : SessionId) (c : ChannelId) (A : ApplicationId) (st : StreamId)
    (key : StreamKey) : Wiring :=
  (w.detach A st key).setSession sid c none

/-- An application starts to take streams. -/
def opening (w : Wiring) (A : ApplicationId) : Wiring :=
  { w with shut := fun B => decide (B ≠ A) && w.shut B }

/-- An application takes no more streams. -/
def shutting (w : Wiring) (A : ApplicationId) : Wiring :=
  { w with shut := fun B => decide (B = A) || w.shut B }

/-- What the sessions publish once one of them is set. -/
lemma publishes_setSession {b : Option Binding} : (w.setSession sid c b).Publishes sid' c' b' ↔
    (sid' = sid ∧ c' = c ∧ b = some b') ∨ (sid' ≠ sid ∧ w.Publishes sid' c' b') := by
  unfold Publishes setSession
  dsimp only
  split
  · rename_i h
    simp [h, eq_comm]
  · rename_i h
    simp [h]

lemma publishes_publish : (w.publish sid c A st key).Publishes sid' c' b' ↔
    (sid' = sid ∧ c' = c ∧ b' = ⟨A, st⟩) ∨ (sid' ≠ sid ∧ w.Publishes sid' c' b') := by
  refine publishes_setSession.trans (or_congr_left ?_)
  rw [Option.some_inj, eq_comm (a := b')]

lemma publishes_idle : (w.setSession sid c none).Publishes sid' c' b' ↔
    sid' ≠ sid ∧ w.Publishes sid' c' b' := by
  rw [publishes_setSession]
  simp

lemma publishes_unpublish : (w.unpublish sid c A st key).Publishes sid' c' b' ↔
    sid' ≠ sid ∧ w.Publishes sid' c' b' :=
  publishes_idle

/-! ## Changes keep the agreement -/

/-- **A channel that publishes nothing may start to publish a new stream**, under a name that is
free in an application that takes streams. -/
lemma Matched.publish (h : w.Matched) (hshut : w.shut A = false)
    (hname : w.entry? A key.name = none) (hstream : w.stream? st = none)
    (hsession : ∀ c b, ¬w.Publishes sid c b) (hchannel : ∀ sid b, ¬w.Publishes sid c b) :
    (w.publish sid c A st key).Matched where
  entry_of_publishes {sid' c' A' st'} hp := by
    rcases publishes_publish.1 hp with ⟨rfl, rfl, hb⟩ | ⟨-, hold⟩
    · cases hb
      exact ⟨key, if_pos rfl, if_pos ⟨rfl, rfl⟩⟩
    · obtain ⟨key', hst, hentry⟩ := h.entry_of_publishes hold
      have hne : st' ≠ st := by
        rintro rfl
        simp [hstream] at hst
      have hfree : ¬(A' = A ∧ key'.name = key.name) := by
        rintro ⟨rfl, hn⟩
        simp [hn, hname] at hentry
      exact ⟨key', (if_neg hne).trans hst, (if_neg hfree).trans hentry⟩
  publishes_of_entry {A' name c' st'} he := by
    by_cases hnew : A' = A ∧ name = key.name
    · obtain ⟨rfl, rfl⟩ := hnew
      cases (if_pos ⟨rfl, rfl⟩).symm.trans he
      exact ⟨sid, key, publishes_publish.2 (Or.inl ⟨rfl, rfl, rfl⟩), if_pos rfl, rfl⟩
    · obtain ⟨sid', key', hold, hst, hn⟩ := h.publishes_of_entry ((if_neg hnew).symm.trans he)
      have hsid : sid' ≠ sid := by
        rintro rfl
        exact hsession _ _ hold
      have hne : st' ≠ st := by
        rintro rfl
        simp [hstream] at hst
      exact ⟨sid', key', publishes_publish.2 (Or.inr ⟨hsid, hold⟩), (if_neg hne).trans hst, hn⟩
  publishes_of_open {st' key'} hst := by
    by_cases hnew : st' = st
    · subst hnew
      exact ⟨sid, c, A, publishes_publish.2 (Or.inl ⟨rfl, rfl, rfl⟩)⟩
    · obtain ⟨sid', c', A', hold⟩ := h.publishes_of_open ((if_neg hnew).symm.trans hst)
      have hsid : sid' ≠ sid := by
        rintro rfl
        exact hsession _ _ hold
      exact ⟨sid', c', A', publishes_publish.2 (Or.inr ⟨hsid, hold⟩)⟩
  entry_of_shut {A'} hA' name := by
    have hne : ¬(A' = A ∧ name = key.name) := by
      rintro ⟨rfl, -⟩
      exact Bool.false_ne_true (hshut.symm.trans hA')
    exact (if_neg hne).trans (h.entry_of_shut hA' name)
  eq_of_channel hp hp' := by
    rcases publishes_publish.1 hp with ⟨rfl, rfl, -⟩ | ⟨-, hold⟩ <;>
      rcases publishes_publish.1 hp' with ⟨rfl, hc, -⟩ | ⟨-, hold'⟩
    · rfl
    · exact absurd hold' (hchannel _ _)
    · exact absurd (hc ▸ hold) (hchannel _ _)
    · exact h.eq_of_channel hold hold'
  eq_of_stream hp hp' := by
    -- whoever published the stream before would have made it known
    have hfresh : ∀ sid' c' A', ¬w.Publishes sid' c' ⟨A', st⟩ := by
      intro sid' c' A' hold
      obtain ⟨key', hst, -⟩ := h.entry_of_publishes hold
      simp [hstream] at hst
    rcases publishes_publish.1 hp with ⟨rfl, -, hb⟩ | ⟨-, hold⟩ <;>
      rcases publishes_publish.1 hp' with ⟨rfl, -, hb'⟩ | ⟨-, hold'⟩
    · rfl
    · cases hb
      exact absurd hold' (hfresh _ _ _)
    · cases hb'
      exact absurd hold (hfresh _ _ _)
    · exact h.eq_of_stream hold hold'

/-- **A session may cease to publish**, if its stream is closed and taken from the application.

**Proof sketch.** No other session publishes the stream, and none publishes under its name, since
the application has one entry only under each name. -/
lemma Matched.unpublish (h : w.Matched) (hp : w.Publishes sid c ⟨A, st⟩)
    (hkey : w.stream? st = some (key, false)) : (w.unpublish sid c A st key).Matched where
  entry_of_publishes {sid' c' A' st'} hp' := by
    obtain ⟨hsid, hold⟩ := publishes_unpublish.1 hp'
    obtain ⟨key', hst, hentry⟩ := h.entry_of_publishes hold
    have hne : st' ≠ st := by
      rintro rfl
      exact hsid (h.eq_of_stream hold hp)
    -- the entry under the name is that of the stream given up, and there is one only
    have hother : ¬(A' = A ∧ key'.name = key.name) := by
      rintro ⟨rfl, hn⟩
      obtain ⟨key'', hst', hentry'⟩ := h.entry_of_publishes hp
      cases hkey.symm.trans hst'
      rw [hn, hentry'] at hentry
      cases hentry
      exact hne rfl
    exact ⟨key', (if_neg hne).trans hst, (if_neg hother).trans hentry⟩
  publishes_of_entry {A' name c' st'} he := by
    by_cases hgone : A' = A ∧ name = key.name
    · cases (if_pos hgone).symm.trans he
    · obtain ⟨sid', key', hold, hst, hn⟩ := h.publishes_of_entry ((if_neg hgone).symm.trans he)
      have hne : st' ≠ st := by
        rintro rfl
        obtain rfl := h.eq_of_stream hold hp
        cases hold.symm.trans hp
        cases hkey.symm.trans hst
        exact hgone ⟨rfl, hn.symm⟩
      have hsid : sid' ≠ sid := by
        rintro rfl
        cases hold.symm.trans hp
        exact hne rfl
      exact ⟨sid', key', publishes_unpublish.2 ⟨hsid, hold⟩, (if_neg hne).trans hst, hn⟩
  publishes_of_open {st' key'} hst := by
    by_cases hgone : st' = st
    · cases (if_pos hgone).symm.trans hst
    · obtain ⟨sid', c', A', hold⟩ := h.publishes_of_open ((if_neg hgone).symm.trans hst)
      have hsid : sid' ≠ sid := by
        rintro rfl
        cases hold.symm.trans hp
        exact hgone rfl
      exact ⟨sid', c', A', publishes_unpublish.2 ⟨hsid, hold⟩⟩
  entry_of_shut {A'} hA' name := by
    by_cases hgone : A' = A ∧ name = key.name
    · exact if_pos hgone
    · exact (if_neg hgone).trans (h.entry_of_shut hA' name)
  eq_of_channel hp hp' :=
    h.eq_of_channel (publishes_unpublish.1 hp).2 (publishes_unpublish.1 hp').2
  eq_of_stream hp hp' :=
    h.eq_of_stream (publishes_unpublish.1 hp).2 (publishes_unpublish.1 hp').2

/-- An application may start to take streams. -/
lemma Matched.opening (h : w.Matched) : (w.opening A).Matched where
  entry_of_publishes := h.entry_of_publishes
  publishes_of_entry := h.publishes_of_entry
  publishes_of_open := h.publishes_of_open
  entry_of_shut hA' := h.entry_of_shut (Bool.and_eq_true_iff.1 hA').2
  eq_of_channel := h.eq_of_channel
  eq_of_stream := h.eq_of_stream

/-- An application that has no streams may be shut. -/
lemma Matched.shutting (h : w.Matched) (hA : ∀ name, w.entry? A name = none) :
    (w.shutting A).Matched where
  entry_of_publishes := h.entry_of_publishes
  publishes_of_entry := h.publishes_of_entry
  publishes_of_open := h.publishes_of_open
  entry_of_shut {A'} hA' name := by
    rcases Bool.or_eq_true_iff.1 hA' with heq | hold
    · rw [of_decide_eq_true heq]
      exact hA name
    · exact h.entry_of_shut hold name
  eq_of_channel := h.eq_of_channel
  eq_of_stream := h.eq_of_stream

/-- A session that publishes nothing may be added. -/
lemma Matched.idle (h : w.Matched) (hsession : ∀ c b, ¬w.Publishes sid c b) :
    (w.setSession sid c none).Matched where
  entry_of_publishes hp := h.entry_of_publishes (publishes_idle.1 hp).2
  publishes_of_entry he := by
    obtain ⟨sid', key', hold, hst⟩ := h.publishes_of_entry he
    refine ⟨sid', key', publishes_idle.2 ⟨?_, hold⟩, hst⟩
    rintro rfl
    exact hsession _ _ hold
  publishes_of_open hst := by
    obtain ⟨sid', c', A', hold⟩ := h.publishes_of_open hst
    refine ⟨sid', c', A', publishes_idle.2 ⟨?_, hold⟩⟩
    rintro rfl
    exact hsession _ _ hold
  entry_of_shut := h.entry_of_shut
  eq_of_channel hp hp' := h.eq_of_channel (publishes_idle.1 hp).2 (publishes_idle.1 hp').2
  eq_of_stream hp hp' := h.eq_of_stream (publishes_idle.1 hp).2 (publishes_idle.1 hp').2

/-! ## The channel table -/

/-- The channel table may change in whatever way. -/
lemma Matched.withChannels (h : w.Matched) (t : ChannelId → Option SessionId) :
    Matched { w with channel? := t } :=
  ⟨h.entry_of_publishes, h.publishes_of_entry, h.publishes_of_open, h.entry_of_shut,
    h.eq_of_channel, h.eq_of_stream⟩

/-- Between two operations the sessions that publish are among those of the channel table. -/
structure Sound (w : Wiring) : Prop extends Matched w where
  /-- A session is in the table under the number of its channel. -/
  session_of_channel : ∀ {c sid}, w.channel? c = some sid → ∃ b, w.session? sid = some (c, b)
  /-- A session that publishes is in the table. -/
  channel_of_publishes : ∀ {sid c b}, w.Publishes sid c b → w.channel? c = some sid

end Wiring

/-! ## The wiring of a provider -/

namespace Provider

/-- The wiring of a provider. -/
def wiring (p : Provider) : Wiring where
  entry? A name := (p.application A).streams.get? name
  shut A := (p.application A).closed
  stream? id := (p.streams.get? id).map fun s => (s.key, s.isClosed)
  session? id := (p.sessions.get? id).map fun s => (s.channel, s.binding)
  channel? c := p.channels.get? c

variable {p : Provider} {sid : SessionId} {c : ChannelId} {st : StreamId} {key : StreamKey}

lemma session?_eq_some_iff {b : Option Binding} : p.wiring.session? sid = some (c, b) ↔
    ∃ s, p.sessions.get? sid = some s ∧ s.channel = c ∧ s.binding = b := by
  simp [wiring]

lemma stream?_eq_some_iff {closed : Bool} : p.wiring.stream? st = some (key, closed) ↔
    ∃ s, p.streams.get? st = some s ∧ s.key = key ∧ s.isClosed = closed := by
  simp [wiring]

/-- A session publishes what it is bound to. -/
lemma publishes_iff {b : Binding} : p.wiring.Publishes sid c b ↔
    ∃ s, p.sessions.get? sid = some s ∧ s.channel = c ∧ s.binding = some b :=
  session?_eq_some_iff

end Provider

end LiveMedia
