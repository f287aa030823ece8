import LiveMedia.Proofs.Outcome
import LiveMedia.Proofs.Provider.Wiring
import LiveMedia.Proofs.Stream.Lifetime
import LiveMedia.Provider.Reaper

set_option autoImplicit false

/-!
# What the operations do to the wiring

Each part of an operation leaves the wiring as it is or makes one of its changes.

## Main results

* `LiveMedia.Provider.wiring_attach`, `LiveMedia.Provider.wiring_setSession`,
  `LiveMedia.Provider.wiring_addSession` — the parts of creating and binding a channel.
* `LiveMedia.Provider.wiring_release` — a session that is let go ceases to publish.
* `LiveMedia.Provider.wiring_addApplication`, `LiveMedia.Provider.wiring_closeApplication` — an
  application starts and ceases to take streams.
-/

namespace LiveMedia

variable {p : Provider} {sid : SessionId} {c : ChannelId} {A : ApplicationId} {st : StreamId}
  {key : StreamKey}

lemma Store.get?_size {α : Type} (s : Store α) : s.get? s.size = none :=
  List.getElem?_eq_none (Nat.le_refl _)

/-! ## Applications -/

namespace Application

variable {a a' : Application} {name : String}

/-- A stream is attached if its name is free and the application takes streams. -/
lemma attach_eq_ok_iff : a.attach c st key = .ok a' ↔
    a.closed = false ∧ a.streams.get? key.name = none ∧
      a' = { a with streams := a.streams.insert key.name ⟨c, st⟩ } := by
  unfold attach
  split
  · rename_i h
    simp [h]
  split
  · rename_i h
    obtain ⟨e, he⟩ := Table.contains_iff.1 h
    simp [he]
  · rename_i hclosed h
    have hfree : a.streams.get? key.name = none := by
      simpa [Table.contains] using h
    simp [hclosed, hfree, eq_comm]

/-- A channel that publishes under one name only is detached from there. -/
lemma detach_eq (hname : a.streams.get? name = some ⟨c, st⟩)
    (hunique : ∀ n e, a.streams.get? n = some e → e.channel = c → n = name) :
    a.detach c = (some st, { a with streams := a.streams.erase name }) := by
  have hnameOf : a.nameOf? c = some name := by
    unfold nameOf?
    cases hfind : a.streams.entries.find? fun e => e.2.channel == c with
    | none =>
      have hmem := List.find?_eq_none.1 hfind _ (Table.get?_eq_some_iff.1 hname)
      simp at hmem
    | some e =>
      have hget : a.streams.get? e.1 = some e.2 :=
        Table.get?_eq_some_iff.2 (List.mem_of_find?_eq_some hfind)
      have hchannel : e.2.channel = c := by simpa using List.find?_some hfind
      rw [Option.map_some, hunique e.1 e.2 hget hchannel]
  simp [detach, hnameOf, stream?, hname]

end Application

namespace Provider

/-! ## What leaves the wiring as it is -/

@[simp] lemma wiring_report (p : Provider) (events : List Warning) :
    (p.report events).wiring = p.wiring := rfl

/-- Other data of a session is not part of the wiring. -/
lemma wiring_modifySession (p : Provider) (sid : SessionId) {f : Session → Session}
    (hchannel : ∀ s, (f s).channel = s.channel) (hbinding : ∀ s, (f s).binding = s.binding) :
    (p.modifySession sid f).wiring = p.wiring := by
  have hsession : (p.modifySession sid f).wiring.session? = p.wiring.session? := by
    funext id
    show ((p.sessions.modify sid f).get? id).map _ = (p.sessions.get? id).map _
    rw [Store.get?_modify]
    split
    · rw [Option.map_map]
      congr 1
      funext s
      simp [hchannel, hbinding]
    · rfl
  exact congrArg (fun session? => { p.wiring with session? }) hsession

/-- Other data of a stream is not part of the wiring. -/
lemma wiring_modifyStream {s s' : Stream} (h : p.streams.get? st = some s) (hkey : s'.key = s.key)
    (hclosed : s'.isClosed = s.isClosed) : (p.modifyStream st fun _ => s').wiring = p.wiring := by
  have hstream : (p.modifyStream st fun _ => s').wiring.stream? = p.wiring.stream? := by
    funext id
    show ((p.streams.modify st fun _ => s').get? id).map _ = (p.streams.get? id).map _
    rw [Store.get?_modify]
    split
    · rename_i hid
      subst hid
      simp [h, hkey, hclosed]
    · rfl
  exact congrArg (fun stream? => { p.wiring with stream? }) hstream

@[simp] lemma wiring_markReceived (p : Provider) (sid : SessionId) :
    (p.markReceived sid).wiring = p.wiring :=
  wiring_modifySession p sid (fun _ => rfl) (fun _ => rfl)

@[simp] lemma wiring_reject (p : Provider) (sid : SessionId) : (p.reject sid).wiring = p.wiring :=
  wiring_modifySession p sid (fun _ => rfl) (fun _ => rfl)

@[simp] lemma wiring_accept (p : Provider) (sid : SessionId) (size : Nat) :
    (p.accept sid size).wiring = p.wiring := by
  refine (wiring_modifySession (p.markReceived sid) sid ?_ ?_).trans (wiring_markReceived p sid)
  · exact fun _ => rfl
  · exact fun _ => rfl

@[simp] lemma wiring_dropUnknown (p : Provider) (c : ChannelId) :
    (p.dropUnknown c).wiring = p.wiring := by
  unfold dropUnknown
  dsimp only
  split <;> rfl

/-- The hook gives signs of life only. -/
@[simp] lemma wiring_callHook (p : Provider) (sid : SessionId) (c : ChannelId) :
    (p.callHook sid c).wiring = p.wiring := by
  unfold callHook
  split
  · rfl
  · rename_i hook
    have hfold : ∀ (ids : List SessionId) (q : Provider),
        (ids.foldl markReceived q).wiring = q.wiring := by
      intro ids
      induction ids with
      | nil => exact fun q => rfl
      | cons id ids ih => exact fun q => (ih _).trans (wiring_markReceived q id)
    exact hfold _ _

/-! ## What changes the wiring -/

/-- The applications once one of them has changed. -/
lemma application_modifyApplication (p : Provider) (A : ApplicationId)
    (f : Application → Application) (B : ApplicationId) :
    (p.modifyApplication A f).application B =
      if B = A then ((p.applications.get? A).map f).getD .absent else p.application B := by
  show ((p.applications.modify A f).get? B).getD _ = _
  rw [Store.get?_modify]
  split
  · rename_i h
    rw [h]
  · rfl

lemma application_of_get? {a : Application} (h : p.applications.get? A = some a) :
    p.application A = a := by
  rw [application, h, Option.getD_some]

/-- An application object that is not there has no streams and takes none. -/
lemma application_of_none (h : p.applications.get? A = none) : p.application A = .absent := by
  rw [application, h, Option.getD_none]

/-- An application that takes streams is there. -/
lemma get?_of_open (h : (p.application A).closed = false) :
    p.applications.get? A = some (p.application A) := by
  cases hA : p.applications.get? A with
  | none =>
    rw [application_of_none hA] at h
    cases h
  | some a => rw [application, hA, Option.getD_some]

/-- A new application takes streams and has none. -/
lemma wiring_addApplication (p : Provider) (name : String) :
    ({ p with applications := p.applications.add { name } } : Provider).wiring =
      p.wiring.opening p.applications.size := by
  have happlication : ∀ B, ((p.applications.add { name }).get? B).getD .absent =
      if B = p.applications.size then { name } else p.application B := by
    intro B
    rw [Store.get?_add]
    split <;> rfl
  have habsent := application_of_none p.applications.get?_size
  ext1
  · funext B n
    show (((p.applications.add { name }).get? B).getD .absent).streams.get? n =
      (p.application B).streams.get? n
    rw [happlication]
    split
    · rename_i h
      rw [h, habsent]
      rfl
    · rfl
  · funext B
    show (((p.applications.add { name }).get? B).getD .absent).closed =
      (decide (B ≠ p.applications.size) && (p.application B).closed)
    rw [happlication]
    split
    · rename_i h
      simp [h]
    · rename_i h
      simp [h]
  all_goals rfl

/-- An application that is changed, as far as the wiring has it. -/
lemma wiring_modifyApplication {a : Application} {f : Application → Application}
    (hA : p.applications.get? A = some a) :
    (p.modifyApplication A f).wiring =
      { p.wiring with
        entry? := fun B n => if B = A then (f a).streams.get? n else p.wiring.entry? B n
        shut := fun B => if B = A then (f a).closed else p.wiring.shut B } := by
  have happlication := application_modifyApplication p A f
  simp only [hA, Option.map_some, Option.getD_some] at happlication
  ext1
  · funext B n
    show ((p.modifyApplication A f).application B).streams.get? n =
      if B = A then (f a).streams.get? n else (p.application B).streams.get? n
    rw [happlication]
    split <;> rfl
  · funext B
    show ((p.modifyApplication A f).application B).closed =
      if B = A then (f a).closed else (p.application B).closed
    rw [happlication]
    split <;> rfl
  all_goals rfl

/-- A stream that is attached to an application and kept is part of the wiring. -/
lemma wiring_attach {s : Stream} {a : Application}
    (h : (p.application A).attach c p.streams.size s.key = .ok a) (hopen : s.isClosed = false) :
    ({ p.modifyApplication A (fun _ => a) with
      streams := p.streams.add s } : Provider).wiring =
      p.wiring.attach c A p.streams.size s.key := by
  obtain ⟨hclosed, -, rfl⟩ := Application.attach_eq_ok_iff.1 h
  have happlication := wiring_modifyApplication (f := fun _ => { p.application A with
    streams := (p.application A).streams.insert s.key.name ⟨c, p.streams.size⟩ })
    (get?_of_open hclosed)
  ext1
  · funext B n
    refine (congrFun (congrFun (congrArg Wiring.entry? happlication) B) n).trans ?_
    show (if B = A then ((p.application A).streams.insert _ _).get? n else _) =
      if B = A ∧ n = s.key.name then some ⟨c, p.streams.size⟩ else (p.application B).streams.get? n
    rw [Table.get?_insert]
    by_cases hB : B = A
    · simp [hB]
    · simp only [hB, false_and, if_false]
      rfl
  · funext B
    refine (congrFun (congrArg Wiring.shut happlication) B).trans ?_
    show (if B = A then (p.application A).closed else (p.application B).closed) = _
    split
    · rename_i hB
      rw [hB]
      rfl
    · rfl
  · funext id
    show ((p.streams.add s).get? id).map _ =
      if id = p.streams.size then some (s.key, false) else (p.streams.get? id).map _
    rw [Store.get?_add]
    split
    · rw [Option.map_some, hopen]
    · rfl
  all_goals rfl

/-- A session that is set is part of the wiring. -/
lemma wiring_setSession {s : Session} {f : Session → Session} (h : p.sessions.get? sid = some s)
    (hchannel : (f s).channel = s.channel) :
    (p.modifySession sid f).wiring = p.wiring.setSession sid s.channel (f s).binding := by
  ext1
  case session? =>
    funext id
    show ((p.sessions.modify sid f).get? id).map _ =
      if id = sid then some (s.channel, (f s).binding) else (p.sessions.get? id).map _
    rw [Store.get?_modify]
    split
    · rename_i hid
      rw [hid, h, Option.map_some, Option.map_some, hchannel]
    · rfl
  all_goals rfl

/-- A new session under a number of the channel table is part of the wiring. -/
lemma wiring_addSession (p : Provider) (s : Session) :
    ({ p with
      sessions := p.sessions.add s
      channels := p.channels.insert s.channel p.sessions.size } : Provider).wiring =
      { p.wiring.setSession p.sessions.size s.channel s.binding with
        channel? := fun c =>
          if c = s.channel then some p.sessions.size else p.channels.get? c } := by
  ext1
  case session? =>
    funext id
    show ((p.sessions.add s).get? id).map _ =
      if id = p.sessions.size then some (s.channel, s.binding) else (p.sessions.get? id).map _
    rw [Store.get?_add]
    split <;> rfl
  case channel? =>
    funext c
    exact Table.get?_insert _ _ _ _
  all_goals rfl

/-! ## Letting go -/

/-- A session that publishes nothing is let go without a change. -/
lemma wiring_release_of_idle (h : ∀ c b, ¬p.wiring.Publishes sid c b) :
    (p.release sid).wiring = p.wiring := by
  unfold release
  split
  · rfl
  · rename_i s hs
    split
    · rfl
    · rename_i b hb
      exact absurd (publishes_iff.2 ⟨s, hs, rfl, hb⟩) (h s.channel b)

/-- The one entry of a channel that publishes. -/
lemma detach_of_publishes (hw : p.wiring.Matched) (hp : p.wiring.Publishes sid c ⟨A, st⟩)
    (hkey : p.wiring.stream? st = some (key, false)) :
    (p.application A).detach c =
      (some st, { p.application A with streams := (p.application A).streams.erase key.name }) := by
  obtain ⟨key', hkey', hentry⟩ := hw.entry_of_publishes hp
  cases hkey.symm.trans hkey'
  refine Application.detach_eq hentry ?_
  rintro n ⟨c', st'⟩ he rfl
  obtain ⟨sid', key', hp', hst', rfl⟩ := hw.publishes_of_entry he
  obtain rfl := hw.eq_of_channel hp' hp
  cases hp'.symm.trans hp
  cases hkey.symm.trans hst'
  rfl

/-- A stream that is closed keeps its key. -/
lemma wiring_close {b : Bool} (hkey : p.wiring.stream? st = some (key, b)) :
    (p.modifyStream st Stream.close).wiring =
      { p.wiring with
        stream? := fun id => if id = st then some (key, true) else p.wiring.stream? id } := by
  obtain ⟨s, hs, rfl, -⟩ := stream?_eq_some_iff.1 hkey
  ext1
  case stream? =>
    funext id
    show ((p.streams.modify st Stream.close).get? id).map _ =
      if id = st then some (s.key, true) else (p.streams.get? id).map _
    rw [Store.get?_modify]
    split
    · rename_i hid
      rw [hid, hs, Option.map_some, Option.map_some]
      exact congrArg (fun closed => some (s.key, closed)) (Feed.closed_complete _)
    · rfl
  all_goals rfl

/-- **A session that is let go ceases to publish.**

**Proof sketch.** The application finds the stream by its channel. Since no two sessions publish
over one channel, there is one entry of the channel only, and it is that of the stream. -/
lemma wiring_release (hw : p.wiring.Matched) (hp : p.wiring.Publishes sid c ⟨A, st⟩)
    (hkey : p.wiring.stream? st = some (key, false)) :
    (p.release sid).wiring = p.wiring.unpublish sid c A st key := by
  obtain ⟨s, hs, rfl, hb⟩ := publishes_iff.1 hp
  have hdetach := detach_of_publishes hw hp hkey
  have hA : p.applications.get? A = some (p.application A) := by
    cases h : p.applications.get? A with
    | none =>
      rw [application_of_none h] at hdetach
      cases hdetach
    | some a => rw [application, h, Option.getD_some]
  -- first the session is set free, then the entry is taken out, and last the stream is closed
  let q := p.modifySession sid fun s => { s with binding := none }
  let r := q.modifyApplication A fun a => (a.detach s.channel).2
  have hrelease : p.release sid = r.modifyStream st Stream.close := by
    unfold release
    simp only [hs, hb]
    rfl
  have hq : q.wiring = p.wiring.setSession sid s.channel none := wiring_setSession hs rfl
  have hr := wiring_modifyApplication (p := q) (f := fun a => (a.detach s.channel).2) hA
  rw [hrelease, wiring_close (p := r) hkey, hr, hq, hdetach]
  ext1
  · funext B n
    show (if B = A then ((p.application A).streams.erase key.name).get? n
      else (p.application B).streams.get? n) = if B = A ∧ n = key.name then none else _
    rw [Table.get?_erase]
    by_cases hB : B = A
    · simp only [hB, true_and, if_true]
      rfl
    · simp only [hB, false_and, if_false]
      rfl
  · funext B
    show (if B = A then (p.application A).closed else (p.application B).closed) = _
    split
    · rename_i hB
      rw [hB]
      rfl
    · rfl
  all_goals rfl

/-- An application that has no streams is closed. -/
lemma wiring_closeApplication (h : ∀ name, p.wiring.entry? A name = none) :
    (p.closeApplication A).wiring = p.wiring.shutting A := by
  have hempty : (p.application A).streams = ∅ := Table.ext_get? h
  have hclose : (p.application A).close = ([], { p.application A with closed := true }) := by
    simp only [Application.close, hempty]
    rfl
  have happlication : ∀ B, (p.modifyApplication A fun _ =>
      { p.application A with closed := true }).application B =
        if B = A then { p.application A with closed := true } else p.application B := by
    intro B
    rw [application_modifyApplication]
    cases hA : p.applications.get? A with
    | none =>
      rw [application_of_none hA]
      rfl
    | some a => rfl
  unfold closeApplication
  simp only [hclose, List.foldl_nil]
  ext1
  · funext B n
    show ((p.modifyApplication A _).application B).streams.get? n =
      (p.application B).streams.get? n
    rw [happlication]
    split
    · rename_i hB
      rw [hB]
    · rfl
  · funext B
    show ((p.modifyApplication A _).application B).closed =
      (decide (B = A) || (p.application B).closed)
    rw [happlication]
    split
    · rename_i hB
      simp [hB]
    · rename_i hB
      simp [hB]
  all_goals rfl

end Provider

end LiveMedia
