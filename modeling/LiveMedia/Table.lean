set_option autoImplicit false

/-!
# Keyed tables

A table maps finitely many keys to values and lists them in increasing order of the keys, so two
tables with the same content are equal.

## Main definitions

* `LiveMedia.Table` — entries with strictly increasing keys.
* `LiveMedia.Table.get?`, `LiveMedia.Table.insert`, `LiveMedia.Table.erase`,
  `LiveMedia.Table.modify`, `LiveMedia.Table.filter` — look-up and updates.

## Main results

* `LiveMedia.Table.get?_insert`, `LiveMedia.Table.get?_erase`, `LiveMedia.Table.get?_modify`,
  `LiveMedia.Table.get?_filter` — what a look-up finds after an update.
* `LiveMedia.Table.get?_eq_some_iff` — a look-up finds exactly the entries.
* `LiveMedia.Table.ext_get?` — tables in which every look-up finds the same are equal.
-/

namespace LiveMedia

open Std

/-- A finite map; its entries are listed with strictly increasing keys. -/
structure Table (κ α : Type) [LT κ] where
  entries : List (κ × α)
  sorted : entries.Pairwise fun e f => e.1 < f.1

namespace Table

variable {κ α β : Type} [LT κ]

/-- The table without entries. -/
def empty : Table κ α := ⟨[], .nil⟩

instance : EmptyCollection (Table κ α) := ⟨empty⟩

instance : Inhabited (Table κ α) := ⟨empty⟩

theorem ext {t u : Table κ α} (h : t.entries = u.entries) : t = u := by
  cases t; cases u; cases h; rfl

/-- The number of entries. -/
def size (t : Table κ α) : Nat :=
  t.entries.length

/-- There are no entries. -/
def isEmpty (t : Table κ α) : Bool :=
  t.entries.isEmpty

/-- The keys, in increasing order. -/
def keys (t : Table κ α) : List κ :=
  t.entries.map Prod.fst

/-- The values, in the order of their keys. -/
def values (t : Table κ α) : List α :=
  t.entries.map Prod.snd

/-- The entries that satisfy a condition. -/
def filter (p : κ → α → Bool) (t : Table κ α) : Table κ α where
  entries := t.entries.filter fun e => p e.1 e.2
  sorted := t.sorted.filter _

/-- Every value replaced. -/
def map (f : κ → α → β) (t : Table κ α) : Table κ β where
  entries := t.entries.map fun e => (e.1, f e.1 e.2)
  sorted := List.pairwise_map.2 t.sorted

/-! ## Look-up and change -/

section

variable [DecidableEq κ]

/-- The value of a key. -/
def get? (t : Table κ α) (key : κ) : Option α :=
  (t.entries.find? fun e => e.1 = key).map Prod.snd

/-- The key has a value. -/
def contains (t : Table κ α) (key : κ) : Bool :=
  (t.get? key).isSome

/-- The table without a key. -/
def erase (t : Table κ α) (key : κ) : Table κ α :=
  t.filter fun k _ => k ≠ key

/-- The value of a key replaced, if it has one. -/
def modify (t : Table κ α) (key : κ) (f : α → α) : Table κ α :=
  t.map fun k v => if k = key then f v else v

end

section Insert

variable [DecidableLT κ]

/-- Puts an entry where its key belongs, in place of one with the same key. -/
def insertEntry (key : κ) (value : α) : List (κ × α) → List (κ × α)
  | [] => [(key, value)]
  | e :: rest =>
    if key < e.1 then (key, value) :: e :: rest
    else if e.1 < key then e :: insertEntry key value rest
    else (key, value) :: rest

theorem mem_insertEntry {key : κ} {value : α} {entries : List (κ × α)} {e : κ × α}
    (h : e ∈ insertEntry key value entries) : e = (key, value) ∨ e ∈ entries := by
  induction entries with
  | nil => exact Or.inl (List.mem_singleton.1 h)
  | cons f rest ih =>
    unfold insertEntry at h
    split at h
    · exact List.mem_cons.1 h
    split at h
    · rcases List.mem_cons.1 h with rfl | h
      · exact Or.inr (.head _)
      · exact (ih h).imp id (.tail _)
    · exact (List.mem_cons.1 h).imp id (.tail _)

variable [LE κ] [IsLinearOrder κ] [LawfulOrderLT κ]

omit [DecidableLT κ] in
theorem eq_of_not_lt {a b : κ} (hab : ¬a < b) (hba : ¬b < a) : a = b :=
  le_antisymm (not_lt.1 hba) (not_lt.1 hab)

theorem sorted_insertEntry {key : κ} {value : α} {entries : List (κ × α)}
    (h : entries.Pairwise fun e f => e.1 < f.1) :
    (insertEntry key value entries).Pairwise fun e f => e.1 < f.1 := by
  induction entries with
  | nil => exact List.pairwise_singleton _ _
  | cons f rest ih =>
    have hf := List.pairwise_cons.1 h
    unfold insertEntry
    split
    · rename_i hlt
      refine List.pairwise_cons.2 ⟨fun e he => ?_, h⟩
      rcases List.mem_cons.1 he with rfl | he
      · exact hlt
      · exact lt_trans hlt (hf.1 e he)
    split
    · rename_i hlt
      refine List.pairwise_cons.2 ⟨fun e he => ?_, ih hf.2⟩
      rcases mem_insertEntry he with rfl | he
      · exact hlt
      · exact hf.1 e he
    · rename_i hkf hfk
      refine List.pairwise_cons.2 ⟨fun e he => ?_, hf.2⟩
      have hkey : key = f.1 := eq_of_not_lt hkf hfk
      exact hkey ▸ hf.1 e he

/-- Gives a key a value, in place of the old one. -/
def insert (t : Table κ α) (key : κ) (value : α) : Table κ α where
  entries := insertEntry key value t.entries
  sorted := sorted_insertEntry t.sorted

end Insert

/-! ## What a look-up finds -/

section Lemmas

variable [DecidableEq κ]

@[simp]
theorem get?_empty (key : κ) : (∅ : Table κ α).get? key = none := rfl

variable [LE κ] [LawfulOrderLT κ]

theorem find?_eq_some_of_mem {entries : List (κ × α)}
    (hs : entries.Pairwise fun e f => e.1 < f.1) {e : κ × α} (he : e ∈ entries) :
    entries.find? (fun f => f.1 = e.1) = some e := by
  induction entries with
  | nil => cases he
  | cons f rest ih =>
    have hf := List.pairwise_cons.1 hs
    rcases List.mem_cons.1 he with rfl | he
    · simp
    · have hne : f.1 ≠ e.1 := fun heq => lt_irrefl (heq ▸ hf.1 e he)
      rw [List.find?_cons_of_neg (by simpa using hne)]
      exact ih hf.2 he

/-- A look-up finds exactly the entries. -/
theorem get?_eq_some_iff {t : Table κ α} {key : κ} {value : α} :
    t.get? key = some value ↔ (key, value) ∈ t.entries := by
  unfold get?
  constructor
  · intro h
    obtain ⟨e, he, rfl⟩ := Option.map_eq_some_iff.1 h
    have hk : e.1 = key := by simpa using List.find?_some he
    exact hk ▸ List.mem_of_find?_eq_some he
  · intro h
    rw [find?_eq_some_of_mem (e := (key, value)) t.sorted h]
    rfl

theorem get?_eq_none_iff {t : Table κ α} {key : κ} :
    t.get? key = none ↔ ∀ value, (key, value) ∉ t.entries := by
  constructor
  · intro h value hm
    rw [get?_eq_some_iff.2 hm] at h
    cases h
  · intro h
    cases hg : t.get? key with
    | none => rfl
    | some value => exact absurd (get?_eq_some_iff.1 hg) (h value)

theorem get?_filter (t : Table κ α) (p : κ → α → Bool) (key : κ) :
    (t.filter p).get? key = (t.get? key).filter (p key) := by
  cases hg : t.get? key with
  | none =>
    rw [get?_eq_none_iff] at hg
    simp only [Option.filter_none, get?_eq_none_iff]
    exact fun value hm => hg value (List.mem_filter.1 hm).1
  | some value =>
    have hm := get?_eq_some_iff.1 hg
    by_cases hp : p key value
    · rw [Option.filter_some, if_pos hp, get?_eq_some_iff]
      exact List.mem_filter.2 ⟨hm, hp⟩
    · rw [Option.filter_some, if_neg hp, get?_eq_none_iff]
      intro w hw
      obtain ⟨hw, hpw⟩ := List.mem_filter.1 hw
      rw [← get?_eq_some_iff, hg] at hw
      cases hw
      exact hp hpw

theorem get?_erase (t : Table κ α) (key k : κ) :
    (t.erase key).get? k = if k = key then none else t.get? k := by
  unfold erase
  rw [get?_filter]
  cases t.get? k with
  | none => simp
  | some value => by_cases h : k = key <;> simp [h]

theorem get?_map (t : Table κ α) (f : κ → α → β) (key : κ) :
    (t.map f).get? key = (t.get? key).map (f key) := by
  cases hg : t.get? key with
  | none =>
    rw [get?_eq_none_iff] at hg
    simp only [Option.map_none, get?_eq_none_iff]
    intro value hm
    obtain ⟨e, he, heq⟩ := List.mem_map.1 hm
    cases heq
    exact hg e.2 he
  | some value =>
    rw [Option.map_some, get?_eq_some_iff]
    exact List.mem_map.2 ⟨_, get?_eq_some_iff.1 hg, rfl⟩

theorem get?_modify (t : Table κ α) (key : κ) (f : α → α) (k : κ) :
    (t.modify key f).get? k = if k = key then (t.get? k).map f else t.get? k := by
  unfold modify
  rw [get?_map]
  by_cases h : k = key <;> simp [h]

theorem mem_values_iff {t : Table κ α} {value : α} :
    value ∈ t.values ↔ ∃ key, t.get? key = some value := by
  simp only [values, List.mem_map, get?_eq_some_iff]
  constructor
  · rintro ⟨e, he, rfl⟩
    exact ⟨e.1, he⟩
  · rintro ⟨key, h⟩
    exact ⟨(key, value), h, rfl⟩

omit [LE κ] [LawfulOrderLT κ] in
theorem contains_iff {t : Table κ α} {key : κ} :
    t.contains key = true ↔ ∃ value, t.get? key = some value :=
  Option.isSome_iff_exists

variable [IsLinearOrder κ]

/-- Tables in which every look-up finds the same are equal. -/
theorem ext_get? {t u : Table κ α} (h : ∀ key, t.get? key = u.get? key) : t = u := by
  have hnodup : ∀ v : Table κ α, v.entries.Nodup := by
    intro v
    refine List.Pairwise.imp ?_ v.sorted
    rintro a b hlt rfl
    exact lt_irrefl hlt
  have hmem : ∀ e, e ∈ t.entries ↔ e ∈ u.entries := fun e => by
    rw [← get?_eq_some_iff, ← get?_eq_some_iff, h]
  have hperm := (List.perm_ext_iff_of_nodup (hnodup t) (hnodup u)).2 hmem
  refine ext (hperm.eq_of_pairwise (fun a b _ _ hab hba => ?_) t.sorted u.sorted)
  exact absurd (lt_trans hab hba) lt_irrefl

variable [DecidableLT κ]

omit [DecidableEq κ] in
theorem mem_insertEntry_iff {key : κ} {value : α} {entries : List (κ × α)}
    (hs : entries.Pairwise fun e f => e.1 < f.1) {e : κ × α} :
    e ∈ insertEntry key value entries ↔ e = (key, value) ∨ e.1 ≠ key ∧ e ∈ entries := by
  induction entries with
  | nil => simp [insertEntry]
  | cons f rest ih =>
    have hf := List.pairwise_cons.1 hs
    unfold insertEntry
    split
    · rename_i hlt
      have hne : ∀ e ∈ f :: rest, e.1 ≠ key := by
        intro e he heq
        rcases List.mem_cons.1 he with rfl | he
        · exact lt_irrefl (heq ▸ hlt)
        · exact lt_irrefl (heq ▸ lt_trans hlt (hf.1 e he))
      rw [List.mem_cons]
      exact or_congr_right ⟨fun h => ⟨hne e h, h⟩, And.right⟩
    split
    · rename_i hlt
      have hne : f.1 ≠ key := fun heq => lt_irrefl (heq ▸ hlt)
      rw [List.mem_cons, ih hf.2, List.mem_cons]
      constructor
      · rintro (rfl | h | h)
        · exact Or.inr ⟨hne, Or.inl rfl⟩
        · exact Or.inl h
        · exact Or.inr ⟨h.1, Or.inr h.2⟩
      · rintro (h | ⟨_, rfl | h⟩)
        · exact Or.inr (Or.inl h)
        · exact Or.inl rfl
        · exact Or.inr (Or.inr ⟨‹_›, h⟩)
    · rename_i hkf hfk
      have hkey : key = f.1 := eq_of_not_lt hkf hfk
      have hne : ∀ e ∈ rest, e.1 ≠ key := by
        intro e he heq
        exact lt_irrefl (heq.trans hkey ▸ hf.1 e he)
      rw [List.mem_cons, List.mem_cons]
      refine or_congr_right ⟨fun h => ⟨hne e h, Or.inr h⟩, ?_⟩
      rintro ⟨hk, rfl | h⟩
      · exact absurd hkey.symm hk
      · exact h

theorem get?_insert (t : Table κ α) (key : κ) (value : α) (k : κ) :
    (t.insert key value).get? k = if k = key then some value else t.get? k := by
  by_cases h : k = key
  · subst h
    rw [if_pos rfl, get?_eq_some_iff]
    exact (mem_insertEntry_iff t.sorted).2 (Or.inl rfl)
  · rw [if_neg h]
    cases hg : t.get? k with
    | none =>
      rw [get?_eq_none_iff] at hg ⊢
      intro w hw
      rcases (mem_insertEntry_iff t.sorted).1 hw with heq | ⟨_, hm⟩
      · cases heq
        exact h rfl
      · exact hg w hm
    | some w =>
      rw [get?_eq_some_iff] at hg ⊢
      exact (mem_insertEntry_iff t.sorted).2 (Or.inr ⟨h, hg⟩)

/-- Storing the value that a key has already changes nothing. -/
theorem insert_eq_self {t : Table κ α} {key : κ} {value : α} (h : t.get? key = some value) :
    t.insert key value = t := by
  refine ext_get? fun k => ?_
  rw [get?_insert]
  split
  · rename_i hk
    rw [hk, h]
  · rfl

end Lemmas

end Table

end LiveMedia
