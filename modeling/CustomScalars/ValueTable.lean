import CustomScalars.Lookup

/-!
# Tables keyed by values

What is kept for a value is found again under every value that is the same member of a set: a
number under the same number written as a fraction, a text under the same text with a brand. As in
a table of names, the key that came first stays and its entry keeps its place. A value that may
change is no key, whether or not the table has entries.
-/
namespace CustomScalars

abbrev ValueTable (α : Type) := List (Value × α)

namespace ValueTable

variable {α : Type}

def keys (table : ValueTable α) : List Value := table.map Prod.fst

def lookup (table : ValueTable α) (key : Value) : Option α :=
  (table.find? fun entry => entry.1.same key).map Prod.snd

def put : ValueTable α → Value → α → ValueTable α
  | [], key, value => [(key, value)]
  | (present, old) :: rest, key, value =>
    if present.same key then (present, value) :: rest else (present, old) :: put rest key value

def find (table : ValueTable α) (key : Value) : Except Fault (Option α) := do
  key.checkKey
  return table.lookup key

theorem find_of_isKey {key : Value} (isKey : key.isKey = true) (table : ValueTable α) :
    table.find key = .ok (table.lookup key) := by
  simp only [find, Value.checkKey, isKey, if_true]
  rfl

theorem mem_of_lookup {table : ValueTable α} {key : Value} {value : α}
    (found : table.lookup key = some value) : ∃ present, (present, value) ∈ table := by
  obtain ⟨⟨present, _⟩, here, rfl⟩ := Option.map_eq_some_iff.mp found
  exact ⟨present, List.mem_of_find?_eq_some here⟩

/-- What is written is kept, and every other entry was there before. -/
theorem mem_put {table : ValueTable α} {key : Value} {value : α} {entry : Value × α}
    (member : entry ∈ table.put key value) : entry.2 = value ∨ entry ∈ table := by
  induction table with
  | nil =>
    rw [put, List.mem_singleton] at member
    exact Or.inl (congrArg Prod.snd member)
  | cons first rest ih =>
    obtain ⟨present, old⟩ := first
    rw [put] at member
    split at member
    · rcases List.mem_cons.mp member with here | later
      · exact Or.inl (congrArg Prod.snd here)
      · exact Or.inr (List.mem_cons_of_mem _ later)
    · rcases List.mem_cons.mp member with here | later
      · exact Or.inr (here ▸ List.mem_cons_self)
      · exact (ih later).imp id (List.mem_cons_of_mem _)

end ValueTable

end CustomScalars
