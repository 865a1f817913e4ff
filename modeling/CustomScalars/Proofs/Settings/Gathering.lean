import CustomScalars.Proofs.Settings.Layering

/-!
# Reading for one schema

Different keys of one schema are remembered under different names. So a memory that starts out empty
and is read for one schema only has nothing in it but what the layers hold for that schema, and
every read is answered from the layers, be it the first of its key or not.
-/
namespace CustomScalars

namespace Settings

theorem Reader.memoryName_injective (schema : Option Value) :
    Function.Injective (Reader.memoryName schema) := by
  intro key other same
  have lists := congrArg String.toList same
  simp only [memoryName_eq, String.toList_append, List.append_cancel_left_eq] at lists
  exact String.toList_injective lists

variable {settings before after : Settings} {schema : Value}

/-- What a lookup for the schema through the shared reader goes through. -/
def sources (settings : Settings) (schema : Value) : List Value :=
  settings.layers.sources (effectiveSchema schema settings.reader.schema)

/-- What it goes through before the library's defaults. -/
def overrides (settings : Settings) (schema : Value) : List Value :=
  settings.layers.overrides (effectiveSchema schema settings.reader.schema)

/-- What the settings hold for the schema under a key, whatever is remembered. -/
def held (settings : Settings) (schema : Value) (key : String) : Option Value :=
  settings.layers.held (effectiveSchema schema settings.reader.schema) key

theorem firstOf_held (settings : Settings) (schema : Value) (key : String) :
    FirstOf (path key) (settings.sources schema) (settings.held schema key) :=
  firstOf_findSome?_walk (path key) (settings.sources schema)

theorem held_of_firstOf {key : String} {found : Option Value}
    (first : FirstOf (path key) (settings.sources schema) found) :
    settings.held schema key = found :=
  findSome?_walk_of_firstOf first

theorem held_congr {other : Settings} {key : String}
    (same : List.Forall₂ (SameAlong (path key)) (settings.sources schema) (other.sources schema)) :
    settings.held schema key = other.held schema key :=
  findSome?_walk_congr same

/-- The library's defaults are the last layer for every schema. -/
theorem exists_held_of_hasDefault {key : String} (default : HasDefault key)
    (settings : Settings) (schema : Value) : ∃ value, settings.held schema key = some value := by
  apply Option.isSome_iff_exists.mp
  rw [held, Layers.held, List.findSome?_isSome_iff]
  exact ⟨defaults, List.mem_append_right _ (List.mem_singleton_self defaults), default⟩

theorem ReadTo.sources (read : before.ReadTo after) (schema : Value) :
    after.sources schema = before.sources schema := by
  rw [Settings.sources, Settings.sources, read.layers, read.schema]

theorem ReadTo.held (read : before.ReadTo after) (schema : Value) (key : String) :
    after.held schema key = before.held schema key := by
  rw [Settings.held, Settings.held, read.layers, read.schema]

/-- The layers can be asked for the schema, and what is remembered of it is what they hold. -/
structure Reliable (settings : Settings) (schema : Value) : Prop where
  named : ∀ name, effectiveSchema schema settings.reader.schema = some name → name.CanName
  lists : settings.layers.ListsSchemas
  faithful : ∀ key value, settings.Recalls key schema value →
    settings.held schema key = some value

/-- The shared reader is for no schema of its own, so a schema that can be a name is what it is
asked for or nothing. -/
theorem reliable_of_fresh (fresh : settings.reader = .fresh .null) (named : schema.CanName)
    (lists : settings.layers.ListsSchemas) : settings.Reliable schema where
  named := by
    intro name effective
    rw [fresh] at effective
    rcases eq_of_effectiveSchema effective with rfl | rfl
    · exact named
    · exact ⟨rfl, rfl⟩
  lists := lists
  faithful := by
    intro key value recalls
    obtain ⟨-, held⟩ := Reader.recalled_eq_some_iff.mp recalls
    rw [fresh] at held
    cases held

namespace Reliable

theorem resolve (reliable : settings.Reliable schema) (key : String) :
    settings.layers.resolve (effectiveSchema schema settings.reader.schema) (path key) =
      .ok (settings.held schema key) :=
  Layers.resolve_eq_held reliable.named reliable.lists key

theorem answer (reliable : settings.Reliable schema) (key : String) (fallback : Value) :
    (settings.read key fallback schema).1 = .ok ((settings.held schema key).getD fallback) := by
  cases remembered :
      settings.reader.recalled (effectiveSchema schema settings.reader.schema) key with
  | some value =>
    have recalls : settings.Recalls key schema value := remembered
    rw [recalls.read, reliable.faithful key value recalls]
    rfl
  | none =>
    change (settings.reader.read settings.layers key fallback schema).1 = _
    rw [Reader.read_of_forgotten remembered, Layers.uncached, reliable.resolve]
    rfl

theorem read (reliable : settings.Reliable schema) (key : String) (fallback : Value) :
    (settings.read key fallback schema).2.Reliable schema := by
  have read := readTo_read settings key fallback schema
  refine ⟨?_, ?_, ?_⟩
  · rw [read.schema]
    exact reliable.named
  · rw [read.layers]
    exact reliable.lists
  intro other value recalls
  rw [read.held]
  rw [Recalls, read.schema] at recalls
  cases remembered :
      settings.reader.recalled (effectiveSchema schema settings.reader.schema) key with
  | some present =>
    -- Nothing is written where the key was remembered.
    have known : settings.Recalls key schema present := remembered
    rw [known.read] at recalls
    exact reliable.faithful other value recalls
  | none =>
    obtain ⟨writable, kept⟩ := Reader.recalled_eq_some_iff.mp recalls
    -- What was there before is remembered as it was.
    have before : settings.reader.memory.lookup
        (Reader.memoryName (effectiveSchema schema settings.reader.schema) other) = some value →
          settings.held schema other = some value := fun there =>
      reliable.faithful other value (Reader.recalled_eq_some_iff.mpr ⟨writable, there⟩)
    change (settings.reader.read settings.layers key fallback schema).2.memory.lookup _ = _
      at kept
    rw [Reader.read_of_forgotten remembered, reliable.resolve] at kept
    cases found : settings.held schema key with
    | none =>
      rw [found] at kept
      exact before kept
    | some written =>
      rw [found] at kept
      simp only [Reader.noting, Reader.remember, Table.lookup_put] at kept
      split at kept
      next same =>
        rw [Reader.memoryName_injective _ same, found, kept]
      next => exact before kept

end Reliable

end Settings

namespace Action

variable {library : Library} {schema : Value}

/-- A read answers what the settings hold, and so will the next one. -/
theorem outcome_readSetting_of_reliable (reliable : library.settings.Reliable schema)
    (key : String) (fallback : Value) :
    ∃ after, Effect.outcome (readSetting key fallback schema) library =
        (.ok ((library.settings.held schema key).getD fallback), after) ∧
      library.ConsultTo after ∧ after.settings.Reliable schema := by
  refine ⟨_, ?_, .single (.looked key fallback schema), reliable.read key fallback⟩
  rw [outcome_readSetting, reliable.answer]

end Action

end CustomScalars
