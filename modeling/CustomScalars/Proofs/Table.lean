import CustomScalars.Table
import Mathlib.Data.List.Nodup

/-!
# Looking up, writing and changing entries

What a table says of a name after entries were written, taken out or changed, and that no name
comes to stand twice where none did.
-/
namespace CustomScalars.Table

variable {α : Type u} {table : Table α} {name : String} {value : α}

theorem lookup_cons (present name : String) (value : α) (rest : Table α) :
    List.lookup name ((present, value) :: rest) =
      if name = present then some value else rest.lookup name := by
  by_cases here : name = present
  · simp [here]
  · simp [List.lookup_cons, here, beq_false_of_ne here]

theorem lookup_isSome_iff : (table.lookup name).isSome = true ↔ name ∈ table.names := by
  induction table with
  | nil => simp [names]
  | cons entry rest ih =>
    obtain ⟨present, value⟩ := entry
    rw [lookup_cons]
    by_cases here : name = present
    · simp [names, here]
    · rw [if_neg here, ih]
      simp [names, here]

/-- Of a table that is made from a list the first item of a name counts. -/
theorem lookup_map {β : Type v} (items : List β) (key : β → String) (entry : β → α)
    (name : String) : (items.map fun item => (key item, entry item)).lookup name =
      (items.find? fun item => key item == name).map entry := by
  induction items with
  | nil => rfl
  | cons first rest ih =>
    rw [List.map_cons, lookup_cons, List.find?_cons]
    by_cases here : name = key first
    · simp [here]
    · rw [if_neg here, ih, beq_false_of_ne fun same => here same.symm]

/-- Where names stand once, each finds its item. -/
theorem find?_of_nodup {β : Type v} {items : List β} {key : β → String}
    (distinct : (items.map key).Nodup) {item : β} (member : item ∈ items) :
    (items.find? fun other => key other == key item) = some item := by
  cases found : items.find? fun other => key other == key item with
  | none =>
    have absent := List.find?_eq_none.mp found item member
    simp at absent
  | some other =>
    have same : key other = key item := by simpa using List.find?_some found
    have present := List.mem_of_find?_eq_some found
    rw [List.inj_on_of_nodup_map distinct present member same]

theorem mem_of_lookup (found : table.lookup name = some value) : (name, value) ∈ table := by
  obtain ⟨before, after, split, -⟩ := List.lookup_eq_some_iff.mp found
  rw [split]
  exact List.mem_append_right before List.mem_cons_self

theorem names_nodup_put (distinct : table.names.Nodup) (name : String) (value : α) :
    (table.put name value).names.Nodup := by
  rw [names_put]
  split
  · exact distinct
  next new =>
    rw [List.nodup_append]
    refine ⟨distinct, List.nodup_singleton name, ?_⟩
    rintro present member _ added rfl
    exact new (List.mem_singleton.mp added ▸ member)

/-- To write what is there already changes nothing. -/
theorem put_of_lookup (found : table.lookup name = some value) : table.put name value = table := by
  induction table with
  | nil => cases found
  | cons entry rest ih =>
    obtain ⟨present, old⟩ := entry
    by_cases taken : present = name
    · rw [lookup_cons, if_pos taken.symm] at found
      rw [put, if_pos taken, Option.some.inj found]
    · have other : name ≠ present := fun equal => taken equal.symm
      rw [lookup_cons, if_neg other] at found
      rw [put, if_neg taken, ih found]

theorem names_nodup_remove (distinct : table.names.Nodup) (name : String) :
    (table.remove name).names.Nodup :=
  distinct.sublist (List.filter_sublist.map Prod.fst)

theorem lookup_remove (table : Table α) (name other : String) :
    (table.remove name).lookup other = if other = name then none else table.lookup other := by
  induction table with
  | nil => exact (ite_self none).symm
  | cons entry rest ih =>
    obtain ⟨present, old⟩ := entry
    by_cases taken : present = name
    · have gone : Table.remove ((present, old) :: rest) name = Table.remove rest name := by
        simp [remove, taken]
      rw [gone, ih, lookup_cons, taken]
      by_cases here : other = name <;> simp [here]
    · have kept : Table.remove ((present, old) :: rest) name =
          (present, old) :: Table.remove rest name := by
        simp [remove, taken]
      rw [kept, lookup_cons, lookup_cons, ih]
      by_cases here : other = present
      · simp [here, taken]
      · simp [here]

/-- Of the entries that are written, the last one of a name counts. -/
theorem lookup_putAll (table entries : Table α) (name : String) :
    (table.putAll entries).lookup name = (entries.reverse.lookup name).or (table.lookup name) := by
  induction entries generalizing table with
  | nil => rfl
  | cons entry rest ih =>
    obtain ⟨present, value⟩ := entry
    have written : table.putAll ((present, value) :: rest) =
        (table.put present value).putAll rest := rfl
    rw [written, ih, lookup_put, List.reverse_cons, List.lookup_append, lookup_cons]
    cases rest.reverse.lookup name with
    | some later => rfl
    | none => by_cases here : name = present <;> simp [here]

/-- Change every entry by its name, and no name. -/
def adjust (table : Table α) (change : String → α → α) : Table α :=
  table.map fun entry => (entry.1, change entry.1 entry.2)

theorem names_adjust (table : Table α) (change : String → α → α) :
    (table.adjust change).names = table.names := by
  simp [adjust, names]

theorem lookup_adjust (table : Table α) (change : String → α → α) (name : String) :
    (table.adjust change).lookup name = (table.lookup name).map (change name) := by
  induction table with
  | nil => rfl
  | cons entry rest ih =>
    obtain ⟨present, value⟩ := entry
    have changed : adjust ((present, value) :: rest) change =
        (present, change present value) :: adjust rest change := rfl
    rw [changed, lookup_cons, lookup_cons, ih]
    by_cases here : name = present <;> simp [here]

theorem adjust_adjust (table : Table α) (first second : String → α → α) :
    (table.adjust first).adjust second =
      table.adjust fun name value => second name (first name value) := by
  simp [adjust]

theorem adjust_congr {table : Table α} {first second : String → α → α}
    (same : ∀ name value, first name value = second name value) :
    table.adjust first = table.adjust second := by
  simp [adjust, same]

theorem adjust_id {table : Table α} {change : String → α → α}
    (same : ∀ name ∈ table.names, ∀ value, change name value = value) :
    table.adjust change = table := by
  have untouched : ∀ entry ∈ table, (entry.1, change entry.1 entry.2) = entry := by
    intro entry member
    rw [same entry.1 (List.mem_map_of_mem member)]
  exact (List.map_congr_left untouched).trans (List.map_id' table)

/-- Where names stand once, changing what a name has changes its entry alone. -/
theorem put_eq_adjust {table : Table α} (distinct : table.names.Nodup) {name : String} {old : α}
    (found : table.lookup name = some old) (change : α → α) :
    table.put name (change old) =
      table.adjust fun other value => if other = name then change value else value := by
  induction table with
  | nil => cases found
  | cons entry rest ih =>
    obtain ⟨present, value⟩ := entry
    obtain ⟨fresh, distinct⟩ := List.nodup_cons.mp distinct
    by_cases here : present = name
    · subst here
      obtain rfl : value = old := by simpa using found
      have untouched : adjust rest (fun other kept =>
          if other = present then change kept else kept) = rest := by
        refine adjust_id fun other known kept => if_neg ?_
        rintro rfl
        exact fresh known
      simpa [put, adjust] using untouched.symm
    · have other : name ≠ present := fun equal => here equal.symm
      have later : List.lookup name rest = some old := by
        rwa [lookup_cons, if_neg other] at found
      simpa [put, adjust, here] using ih distinct later

end CustomScalars.Table
