/-!
# Tables in insertion order

A table pairs names with values in the order in which the names first came. Writing to a name that
is already there changes its value and leaves it where it stands; a new name goes last.
-/
namespace CustomScalars

abbrev Table (α : Type u) := List (String × α)

namespace Table

variable {α : Type u}

def names (table : Table α) : List String := table.map Prod.fst

def put : Table α → String → α → Table α
  | [], name, value => [(name, value)]
  | (other, old) :: rest, name, value =>
    if other = name then (other, value) :: rest else (other, old) :: put rest name value

def remove (table : Table α) (name : String) : Table α := table.filter fun entry => entry.1 ≠ name

/-- Write every entry of the second table, in its order. -/
def putAll (table entries : Table α) : Table α :=
  entries.foldl (fun written entry => put written entry.1 entry.2) table

theorem lookup_put (table : Table α) (name other : String) (value : α) :
    (table.put name value).lookup other =
      if other = name then some value else table.lookup other := by
  induction table with
  | nil =>
    by_cases same : other = name
    · simp [put, same]
    · simp [put, List.lookup_cons, same, beq_false_of_ne same]
  | cons entry rest ih =>
    obtain ⟨present, old⟩ := entry
    by_cases taken : present = name
    · subst taken
      by_cases same : other = present
      · simp [put, same]
      · simp [put, List.lookup_cons, same, beq_false_of_ne same]
    · by_cases here : other = present
      · subst here
        simp [put, taken]
      · simp [put, taken, List.lookup_cons, ih, beq_false_of_ne here]

/-- What is written is an entry afterwards, and every other entry was there before. -/
theorem mem_put {table : Table α} {name : String} {value : α} {entry : String × α}
    (member : entry ∈ table.put name value) : entry = (name, value) ∨ entry ∈ table := by
  induction table with
  | nil =>
    rw [put, List.mem_singleton] at member
    exact Or.inl member
  | cons first rest ih =>
    obtain ⟨present, old⟩ := first
    by_cases taken : present = name
    · rw [put, if_pos taken] at member
      rcases List.mem_cons.mp member with here | later
      · exact Or.inl (taken ▸ here)
      · exact Or.inr (List.mem_cons_of_mem _ later)
    · rw [put, if_neg taken] at member
      rcases List.mem_cons.mp member with here | later
      · exact Or.inr (here ▸ List.mem_cons_self)
      · exact (ih later).imp id (List.mem_cons_of_mem _)

theorem names_put (table : Table α) (name : String) (value : α) :
    (table.put name value).names =
      if name ∈ table.names then table.names else table.names ++ [name] := by
  induction table with
  | nil => simp [put, names]
  | cons entry rest ih =>
    obtain ⟨present, old⟩ := entry
    by_cases taken : present = name
    · simp [put, names, taken]
    · have other : name ≠ present := fun equal => taken equal.symm
      simp only [names] at ih
      by_cases later : name ∈ rest.map Prod.fst <;>
        simp_all [put, names]

end Table

end CustomScalars
