/-!
This module contains sets and tables that are kept as lists in ascending order of their keys. An
entry is inserted in one pass and a key that is there already is not entered twice, so that two
lists built from the same entries are equal.
-/

namespace Waymark
namespace Ascending

variable {α : Type} {β : Type}

section

variable [LT α] [DecidableLT α] [DecidableEq α]

def insert (x : α) : List α → List α
  | [] => [x]
  | y :: ys => if x = y then y :: ys else if x < y then x :: y :: ys else y :: insert x ys

def put (key : α) (value : β) : List (α × β) → List (α × β)
  | [] => [(key, value)]
  | (k, v) :: rest =>
    if key = k then (key, value) :: rest
    else if key < k then (key, value) :: (k, v) :: rest
    else (k, v) :: put key value rest

def ofList (entries : List (α × β)) : List (α × β) :=
  entries.foldl (fun table entry => put entry.1 entry.2 table) []

@[simp]
theorem mem_insert {x y : α} {ys : List α} : y ∈ insert x ys ↔ y = x ∨ y ∈ ys := by
  induction ys with
  | nil => simp [insert]
  | cons z zs ih =>
    rw [insert]
    split
    . next h => simp [h]
    . split
      . simp
      . simp only [List.mem_cons, ih]
        constructor
        . rintro (h | h | h) <;> simp [h]
        . rintro (h | h | h) <;> simp [h]

@[simp]
theorem lookup_put_self (key : α) (value : β) (table : List (α × β)) :
    (put key value table).lookup key = some value := by
  induction table with
  | nil => simp [put]
  | cons entry rest ih =>
    obtain ⟨k, v⟩ := entry
    rw [put]
    split
    . simp
    . split
      . simp
      . next hne _ =>
        simp [List.lookup_cons, beq_eq_false_iff_ne.2 hne, ih]

theorem lookup_put_of_ne {key key' : α} (h : key' ≠ key) (value : β) (table : List (α × β)) :
    (put key value table).lookup key' = table.lookup key' := by
  have hbeq : (key' == key) = false := beq_eq_false_iff_ne.2 h
  induction table with
  | nil => simp [put, List.lookup_cons, hbeq]
  | cons entry rest ih =>
    obtain ⟨k, v⟩ := entry
    rw [put]
    split
    . next heq => subst heq; simp [List.lookup_cons, hbeq]
    . split
      . simp [List.lookup_cons, hbeq]
      . simp [List.lookup_cons, ih]

theorem mem_put {key : α} {value : β} {table : List (α × β)} {entry : α × β}
    (h : entry ∈ put key value table) : entry = (key, value) ∨ entry ∈ table := by
  induction table with
  | nil => exact .inl (List.mem_singleton.mp h)
  | cons first rest ih =>
    rw [put] at h
    split at h
    . rcases List.mem_cons.mp h with h | h
      . exact .inl h
      . exact .inr (List.mem_cons_of_mem _ h)
    . split at h
      . exact List.mem_cons.mp h
      . rcases List.mem_cons.mp h with h | h
        . exact .inr (List.mem_cons.mpr (.inl h))
        . exact (ih h).imp_right (List.mem_cons_of_mem _)

theorem map_fst_put (key : α) (value : β) (table : List (α × β)) :
    (put key value table).map (·.1) = insert key (table.map (·.1)) := by
  induction table with
  | nil => rfl
  | cons first rest ih =>
    rw [put, List.map_cons, insert]
    split
    . next heq => rw [List.map_cons, heq]
    . split
      . rfl
      . rw [List.map_cons, ih]

theorem lookup_put (key key' : α) (value : β) (table : List (α × β)) :
    (put key value table).lookup key' =
      if key' = key then some value else table.lookup key' := by
  split
  . next h => rw [h, lookup_put_self]
  . next h => exact lookup_put_of_ne h value table

end

end Ascending
end Waymark
