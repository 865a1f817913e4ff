import CustomScalars.Settings.Reader

/-!
# What a reader remembers

A lookup is remembered under one text, in which a colon joins the schema's label to the key. Labels
and keys may have colons of their own, so two lookups may share a name, and then the one that comes
second is answered with what the first one found. Which lookups share a name, and what a read
answers and leaves behind, is said here once.
-/
namespace CustomScalars.Settings

/-- The answer of a lookup to someone who remembers nothing. -/
def Layers.uncached (layers : Layers) (schema : Option Value) (key : String) (fallback : Value) :
    Except Fault Value :=
  (layers.resolve schema (path key)).map fun found => found.getD fallback

/-- The layers answer for no schema that cannot be written. -/
theorem Layers.isWritable_of_resolve {layers : Layers} {schema : Option Value} {path : List String}
    {found : Option Value} (resolved : layers.resolve schema path = .ok found) :
    schema.all Value.isWritable = true := by
  cases schema with
  | none => rfl
  | some name =>
    cases writable : name.isWritable with
    | true => exact writable
    | false => simp [resolve, Value.checkWritable, writable, bind, Except.bind] at resolved

namespace Reader

/-- How a schema is written in a memory; lookups for no schema have a word of their own. -/
def schemaLabel : Option Value → String
  | some name => name.display
  | none => "global"

theorem memoryName_eq (schema : Option Value) (key : String) :
    memoryName schema key = schemaLabel schema ++ ":" ++ key := by
  cases schema <;> rfl

/-- The label of the other schema goes on, after a colon, with the beginning of the key. -/
def RunsInto (schema : Option Value) (key : String) (other : Option Value) (otherKey : String) :
    Prop :=
  ∃ middle, schemaLabel other = schemaLabel schema ++ ":" ++ middle ∧
    key = middle ++ ":" ++ otherKey

/-- Two lookups that a memory cannot tell apart. -/
def SharesName (schema₁ : Option Value) (key₁ : String) (schema₂ : Option Value) (key₂ : String) :
    Prop :=
  (schemaLabel schema₁ = schemaLabel schema₂ ∧ key₁ = key₂) ∨
    RunsInto schema₁ key₁ schema₂ key₂ ∨ RunsInto schema₂ key₂ schema₁ key₁

/-- What is left of a joined text after the shorter of two labels is either the key alone or the
rest of the longer label, a colon and the other key. -/
private theorem joined_split {label key other otherKey : List Char}
    (same : label ++ ':' :: key = other ++ ':' :: otherKey) :
    (label = other ∧ key = otherKey) ∨
      (∃ middle, other = label ++ ':' :: middle ∧ key = middle ++ ':' :: otherKey) ∨
      (∃ middle, label = other ++ ':' :: middle ∧ otherKey = middle ++ ':' :: key) := by
  -- One label goes on where the other ends. What is left of it is nothing, or starts with the colon.
  rcases List.append_eq_append_iff.mp same with ⟨rest, longer, keys⟩ | ⟨rest, longer, keys⟩
  · cases rest with
    | nil =>
      simp only [List.append_nil, List.nil_append, List.cons.injEq, true_and] at longer keys
      exact Or.inl ⟨longer.symm, keys⟩
    | cons first middle =>
      simp only [List.cons_append, List.cons.injEq] at keys
      obtain ⟨rfl, keys⟩ := keys
      exact Or.inr (Or.inl ⟨middle, longer, keys⟩)
  · cases rest with
    | nil =>
      simp only [List.append_nil, List.nil_append, List.cons.injEq, true_and] at longer keys
      exact Or.inl ⟨longer, keys.symm⟩
    | cons first middle =>
      simp only [List.cons_append, List.cons.injEq] at keys
      obtain ⟨rfl, keys⟩ := keys
      exact Or.inr (Or.inr ⟨middle, longer, keys⟩)

private theorem toList_joined (label key : String) :
    (label ++ ":" ++ key).toList = label.toList ++ ':' :: key.toList := by
  simp [String.toList_append]

private theorem joined_ofList (label : String) (middle : List Char) :
    label.toList ++ ':' :: middle = (label ++ ":" ++ String.ofList middle).toList := by
  rw [toList_joined, String.toList_ofList]

theorem memoryName_eq_iff {schema₁ schema₂ : Option Value} {key₁ key₂ : String} :
    memoryName schema₁ key₁ = memoryName schema₂ key₂ ↔
      SharesName schema₁ key₁ schema₂ key₂ := by
  simp only [memoryName_eq, SharesName, RunsInto]
  constructor
  · intro same
    have lists := congrArg String.toList same
    rw [toList_joined, toList_joined] at lists
    rcases joined_split lists with ⟨labels, keys⟩ | ⟨middle, longer, keys⟩ | ⟨middle, longer, keys⟩
    · exact Or.inl ⟨String.toList_injective labels, String.toList_injective keys⟩
    · refine Or.inr (Or.inl ⟨String.ofList middle, String.toList_injective ?_,
        String.toList_injective ?_⟩)
      · rw [longer, joined_ofList]
      · rw [keys, toList_joined, String.toList_ofList]
    · refine Or.inr (Or.inr ⟨String.ofList middle, String.toList_injective ?_,
        String.toList_injective ?_⟩)
      · rw [longer, joined_ofList]
      · rw [keys, toList_joined, String.toList_ofList]
  · rintro (⟨labels, keys⟩ | ⟨middle, longer, keys⟩ | ⟨middle, longer, keys⟩)
    · rw [labels, keys]
    · simp only [longer, keys, String.append_assoc]
    · simp only [longer, keys, String.append_assoc]

/-- Two lookups that differ in label or key, for schemas that are written without colons. -/
structure Apart (schema₁ : Option Value) (key₁ : String) (schema₂ : Option Value) (key₂ : String) :
    Prop where
  plain₁ : ':' ∉ (schemaLabel schema₁).toList
  plain₂ : ':' ∉ (schemaLabel schema₂).toList
  differ : schemaLabel schema₁ ≠ schemaLabel schema₂ ∨ key₁ ≠ key₂

theorem not_runsInto_of_colonless {schema other : Option Value} (key otherKey : String)
    (plain : ':' ∉ (schemaLabel other).toList) : ¬ RunsInto schema key other otherKey := by
  rintro ⟨middle, longer, -⟩
  rw [longer, toList_joined] at plain
  simp at plain

theorem Apart.not_sharesName {schema₁ schema₂ : Option Value} {key₁ key₂ : String}
    (apart : Apart schema₁ key₁ schema₂ key₂) : ¬ SharesName schema₁ key₁ schema₂ key₂ := by
  rintro (⟨labels, keys⟩ | into | into)
  · rcases apart.differ with differ | differ
    · exact differ labels
    · exact differ keys
  · exact not_runsInto_of_colonless key₁ key₂ apart.plain₂ into
  · exact not_runsInto_of_colonless key₂ key₁ apart.plain₁ into

/-- What a lookup leaves behind: only a value that was found in the layers is kept. -/
def noting (reader : Reader) (name : String) : Except Fault (Option Value) → Reader
  | .ok (some value) => reader.remember name value
  | _ => reader

section
variable {reader : Reader} {schema : Option Value} {key : String}

theorem recalled_eq_lookup (writable : schema.all Value.isWritable = true) :
    reader.recalled schema key = reader.memory.lookup (memoryName schema key) := if_pos writable

theorem recalled_of_unwritable (unwritable : schema.all Value.isWritable = false) :
    reader.recalled schema key = none := if_neg (by simp [unwritable])

theorem recalled_eq_none (free : reader.memory.lookup (memoryName schema key) = none) :
    reader.recalled schema key = none := by
  rw [recalled, free, ite_self]

theorem recalled_eq_some_iff {value : Value} :
    reader.recalled schema key = some value ↔ schema.all Value.isWritable = true ∧
      reader.memory.lookup (memoryName schema key) = some value := by
  rw [recalled]
  split
  next writable => simp [writable]
  next unwritable => simp [unwritable]

end

section
variable {reader : Reader} {layers : Layers} {key : String} {fallback asked : Value}

theorem read_of_remembered {value : Value}
    (held : reader.recalled (effectiveSchema asked reader.schema) key = some value) :
    reader.read layers key fallback asked = (.ok value, reader) := by
  simp only [read, held]

theorem read_of_forgotten
    (free : reader.recalled (effectiveSchema asked reader.schema) key = none) :
    reader.read layers key fallback asked =
      (layers.uncached (effectiveSchema asked reader.schema) key fallback,
        reader.noting (memoryName (effectiveSchema asked reader.schema) key)
          (layers.resolve (effectiveSchema asked reader.schema) (path key))) := by
  simp only [read, free, Layers.uncached]
  cases layers.resolve (effectiveSchema asked reader.schema) (path key) with
  | error fault => rfl
  | ok found => cases found <;> rfl

end

@[simp] theorem noting_schema (reader : Reader) (name : String)
    (found : Except Fault (Option Value)) : (reader.noting name found).schema = reader.schema := by
  rcases found with fault | _ | value <;> rfl

/-- An answer depends on nothing in the memory but what is recalled of the lookup itself. -/
private theorem answer_congr {reader other : Reader}
    (schemas : other.schema = reader.schema)
    {layers : Layers} {key : String} {fallback asked : Value}
    (recalls : other.recalled (effectiveSchema asked reader.schema) key =
      reader.recalled (effectiveSchema asked reader.schema) key) :
    (other.read layers key fallback asked).1 = (reader.read layers key fallback asked).1 := by
  rw [← schemas] at recalls
  cases found : other.recalled (effectiveSchema asked other.schema) key with
  | some value =>
    rw [read_of_remembered found, read_of_remembered (by rw [← schemas, ← recalls, found])]
  | none =>
    rw [read_of_forgotten found, read_of_forgotten (by rw [← schemas, ← recalls, found])]
    simp only [schemas]

/-- The first of two lookups leaves under a shared name what the layers do not answer to the
second, which is one that a memory can answer. -/
def Disturbs (reader : Reader) (layers : Layers) (schema₁ : Option Value) (key₁ : String)
    (schema₂ : Option Value) (key₂ : String) (fallback : Value) : Prop :=
  SharesName schema₁ key₁ schema₂ key₂ ∧
    schema₂.all Value.isWritable = true ∧
    reader.memory.lookup (memoryName schema₁ key₁) = none ∧
    ∃ value, layers.resolve schema₁ (path key₁) = .ok (some value) ∧
      layers.uncached schema₂ key₂ fallback ≠ .ok value

theorem answer_after_read_eq_iff (reader : Reader) (layers : Layers) (key₁ key₂ : String)
    (fallback₁ fallback₂ asked₁ asked₂ : Value) :
    ((reader.read layers key₁ fallback₁ asked₁).2.read layers key₂ fallback₂ asked₂).1 =
        (reader.read layers key₂ fallback₂ asked₂).1 ↔
      ¬ reader.Disturbs layers (effectiveSchema asked₁ reader.schema) key₁
        (effectiveSchema asked₂ reader.schema) key₂ fallback₂ := by
  generalize first : effectiveSchema asked₁ reader.schema = schema₁
  generalize second : effectiveSchema asked₂ reader.schema = schema₂
  cases free : reader.recalled schema₁ key₁ with
  | some value =>
    -- The first lookup is answered from the memory and leaves it as it was.
    have held := (recalled_eq_some_iff.mp free).2
    rw [← first] at free
    rw [read_of_remembered free]
    simp [Disturbs, held]
  | none =>
    have left : reader.read layers key₁ fallback₁ asked₁ = _ := read_of_forgotten (first ▸ free)
    rw [left, first]
    -- Only a value that was found is kept, so the other two cases leave nothing behind.
    rcases found : layers.resolve schema₁ (path key₁) with fault | _ | value
    · simp [Disturbs, noting, found]
    · simp [Disturbs, noting, found]
    rw [recalled_eq_lookup (Layers.isWritable_of_resolve found)] at free
    by_cases answers : SharesName schema₁ key₁ schema₂ key₂ ∧ schema₂.all Value.isWritable = true
    · obtain ⟨shares, writable⟩ := answers
      have shared := memoryName_eq_iff.mpr shares
      have forgotten : reader.recalled schema₂ key₂ = none := recalled_eq_none (shared ▸ free)
      have remembered : (reader.remember (memoryName schema₁ key₁) value).recalled
          (effectiveSchema asked₂ reader.schema) key₂ = some value := by
        rw [second, recalled_eq_lookup writable]
        simp [remember, Table.lookup_put, shared]
      rw [noting, read_of_remembered remembered, read_of_forgotten (second ▸ forgotten), second]
      simp [Disturbs, shares, writable, free, found, eq_comm]
    · have same : ((reader.remember (memoryName schema₁ key₁) value).read layers key₂ fallback₂
          asked₂).1 = (reader.read layers key₂ fallback₂ asked₂).1 := by
        have schemas : (reader.remember (memoryName schema₁ key₁) value).schema = reader.schema :=
          rfl
        refine answer_congr schemas ?_
        rw [second]
        -- A name of another lookup was written to, or nothing is recalled of this one at all.
        cases writable : schema₂.all Value.isWritable with
        | false => rw [recalled_of_unwritable writable, recalled_of_unwritable writable]
        | true =>
          have apart : memoryName schema₂ key₂ ≠ memoryName schema₁ key₁ := fun shared =>
            answers ⟨memoryName_eq_iff.mp shared.symm, writable⟩
          rw [recalled_eq_lookup writable, recalled_eq_lookup writable, remember, Table.lookup_put,
            if_neg apart]
      have calm : ¬ reader.Disturbs layers schema₁ key₁ schema₂ key₂ fallback₂ :=
        fun disturbs => answers ⟨disturbs.1, disturbs.2.1⟩
      simp [noting, same, calm]

end Reader

end CustomScalars.Settings
