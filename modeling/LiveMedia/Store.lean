set_option autoImplicit false

/-!
# Stores

A store gives every object put into it a number of its own and never takes an object out, so a
number stands for the same object for ever.

## Main definitions

* `LiveMedia.Store` — objects by number.
* `LiveMedia.Store.add`, `LiveMedia.Store.get?`, `LiveMedia.Store.modify` — its operations.
-/

namespace LiveMedia

/-- Objects by number, counted from zero. -/
structure Store (α : Type) where
  items : List α := []
  deriving Repr

namespace Store

variable {α : Type}

/-- The number of objects, and the number that the next one gets. -/
def size (s : Store α) : Nat :=
  s.items.length

/-- The store with one more object. -/
def add (s : Store α) (x : α) : Store α :=
  ⟨s.items ++ [x]⟩

/-- The object with a number. -/
def get? (s : Store α) (id : Nat) : Option α :=
  s.items[id]?

/-- The object with a number, changed. -/
def modify (s : Store α) (id : Nat) (f : α → α) : Store α :=
  ⟨s.items.modify id f⟩

/-- Every object changed. -/
def map (s : Store α) (f : α → α) : Store α :=
  ⟨s.items.map f⟩

theorem get?_add (s : Store α) (x : α) (id : Nat) :
    (s.add x).get? id = if id = s.size then some x else s.get? id := by
  unfold add get? size
  rw [List.getElem?_append]
  split
  · rename_i h
    rw [if_neg (Nat.ne_of_lt h)]
  · rename_i h
    split
    · rename_i heq
      simp [heq]
    · rename_i hne
      rw [List.getElem?_eq_none (by simp; omega), List.getElem?_eq_none (by omega)]

theorem get?_modify (s : Store α) (id : Nat) (f : α → α) (k : Nat) :
    (s.modify id f).get? k = if k = id then (s.get? k).map f else s.get? k := by
  unfold modify get?
  rw [List.getElem?_modify]
  by_cases h : k = id
  · simp [h]
  · simp [h, Ne.symm h]

theorem get?_map (s : Store α) (f : α → α) (id : Nat) :
    (s.map f).get? id = (s.get? id).map f := by
  simp [map, get?]

end Store

end LiveMedia
