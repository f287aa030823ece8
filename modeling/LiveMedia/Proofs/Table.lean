import LiveMedia.Table
import Mathlib.Data.List.Perm.Basic
import Mathlib.Tactic.Lemma

set_option autoImplicit false

/-!
# Counting the entries of a table

What is counted of a table, its entries or something of each, does not depend on their order. Up to
order, the entries of a table with one more key are the new one and the old ones.

## Main results

* `LiveMedia.Table.perm_insert`, `LiveMedia.Table.perm_erase` — the entries up to their order.
* `LiveMedia.Table.size_insert`, `LiveMedia.Table.size_erase`, `LiveMedia.Table.size_filter_add` —
  the number of entries.
-/

namespace LiveMedia.Table

open Std

variable {κ α : Type} [LT κ] {t : Table κ α} {key : κ} {value : α}

/-- An entry satisfies a condition or does not. -/
lemma size_filter_add (t : Table κ α) (f : κ → α → Bool) :
    (t.filter f).size + (t.filter fun k v => !f k v).size = t.size := by
  have h := @List.length_eq_length_filter_add _ t.entries fun e => f e.1 e.2
  exact h.symm

section

variable [LE κ] [LawfulOrderLT κ]

lemma nodup_entries (t : Table κ α) : t.entries.Nodup := by
  refine List.Pairwise.imp ?_ t.sorted
  rintro a b hlt rfl
  exact lt_irrefl hlt

end

variable [DecidableEq κ]

lemma mem_entries_erase {e : κ × α} :
    e ∈ (t.erase key).entries ↔ e.1 ≠ key ∧ e ∈ t.entries := by
  show e ∈ t.entries.filter _ ↔ _
  rw [List.mem_filter, decide_eq_true_eq, and_comm]

variable [LE κ] [LawfulOrderLT κ] [IsLinearOrder κ]

/-- A key without a value is not missed. -/
lemma erase_eq_self (h : t.get? key = none) : t.erase key = t := by
  refine ext_get? fun k => ?_
  rw [get?_erase]
  split
  · next hk => rw [hk, h]
  · rfl

/-- There is no value of a key to be changed. -/
lemma modify_eq_self (h : t.get? key = none) (f : α → α) : t.modify key f = t := by
  refine ext_get? fun k => ?_
  rw [get?_modify]
  split
  · next hk => rw [hk, h, Option.map_none]
  · rfl

variable [DecidableLT κ]

/-- To change a value is to store the changed one. -/
lemma modify_eq_insert (h : t.get? key = some value) (f : α → α) :
    t.modify key f = t.insert key (f value) := by
  refine ext_get? fun k => ?_
  rw [get?_modify, get?_insert]
  split
  · next hk => rw [hk, h, Option.map_some]
  · rfl

/-- An entry that is taken out again leaves no trace but that there is none under its key. -/
lemma erase_insert (t : Table κ α) (key : κ) (value : α) :
    (t.insert key value).erase key = t.erase key := by
  refine ext_get? fun k => ?_
  rw [get?_erase, get?_erase, get?_insert]
  split <;> rfl

/-- Up to order, a new entry stands before those of the other keys. -/
lemma perm_insert (t : Table κ α) (key : κ) (value : α) :
    (t.insert key value).entries.Perm ((key, value) :: (t.erase key).entries) := by
  have hnot : (key, value) ∉ (t.erase key).entries := fun h => (mem_entries_erase.1 h).1 rfl
  refine (List.perm_ext_iff_of_nodup (nodup_entries _)
    (List.nodup_cons.2 ⟨hnot, nodup_entries _⟩)).2 fun e => ?_
  rw [List.mem_cons, mem_entries_erase]
  exact mem_insertEntry_iff t.sorted

/-- Up to order, an entry stands before those of the other keys. -/
lemma perm_erase (h : t.get? key = some value) :
    t.entries.Perm ((key, value) :: (t.erase key).entries) := by
  have hperm := perm_insert t key value
  rwa [insert_eq_self h] at hperm

lemma size_erase (h : t.get? key = some value) : (t.erase key).size + 1 = t.size :=
  (perm_erase h).length_eq.symm

lemma size_insert (h : t.get? key = none) (value : α) :
    (t.insert key value).size = t.size + 1 := by
  have hlength := (perm_insert t key value).length_eq
  rwa [erase_eq_self h] at hlength

end LiveMedia.Table
