import CustomScalars.Proofs.Settings.Freshness
import CustomScalars.Proofs.Settings.Memory
import CustomScalars.Proofs.Settings.Reading

/-!
# What stays remembered

Reading adds to the memory of the shared reader and changes nothing in it. So what is remembered of
a setting is what every later read of it answers, whatever else is read in between. A setting that
the library has a default for is found in some layer, and is remembered once it is read. Which
schema the reader is for by itself no change to the settings touches.
-/
namespace CustomScalars.Settings

variable {settings before after : Settings} {key : String} {schema value : Value}

/-- What a lookup of the key for the schema finds in the memory. -/
def Recalls (settings : Settings) (key : String) (schema value : Value) : Prop :=
  settings.reader.recalled (effectiveSchema schema settings.reader.schema) key = some value

theorem Recalls.unique {other : Value} (recalls : settings.Recalls key schema value)
    (others : settings.Recalls key schema other) : value = other :=
  Option.some.inj (recalls.symm.trans others)

theorem Recalls.read (recalls : settings.Recalls key schema value) (fallback : Value) :
    settings.read key fallback schema = (.ok value, settings) := by
  have answered : settings.reader.read settings.layers key fallback schema =
      (.ok value, settings.reader) := Reader.read_of_remembered recalls
  simp only [Settings.read, answered]

theorem memory_kept {name : String} (held : settings.reader.memory.lookup name = some value)
    (key : String) (fallback schema : Value) :
    (settings.read key fallback schema).2.reader.memory.lookup name = some value := by
  change (settings.reader.read settings.layers key fallback schema).2.memory.lookup name =
    some value
  cases free : settings.reader.recalled (effectiveSchema schema settings.reader.schema) key with
  | some present =>
    rw [Reader.read_of_remembered free]
    exact held
  | none =>
    rw [Reader.read_of_forgotten free]
    rcases resolved : settings.layers.resolve (effectiveSchema schema settings.reader.schema)
      (path key) with fault | _ | found
    · exact held
    · exact held
    · rw [Reader.recalled_eq_lookup (Layers.isWritable_of_resolve resolved)] at free
      -- A name that is written to now had nothing under it, so it is not the one asked about.
      have other : name ≠ Reader.memoryName (effectiveSchema schema settings.reader.schema) key := by
        rintro rfl
        rw [free] at held
        cases held
      simp only [Reader.noting, Reader.remember, Table.lookup_put, if_neg other]
      exact held

theorem Recalls.readTo (recalls : before.Recalls key schema value) (read : before.ReadTo after) :
    after.Recalls key schema value := by
  induction read with
  | refl => exact recalls
  | @tail between _ _ looked ih =>
    obtain ⟨other, fallback, asked, rfl⟩ := looked
    have sameSchema := (readTo_read between other fallback asked).schema
    obtain ⟨writable, held⟩ := Reader.recalled_eq_some_iff.mp ih
    rw [Recalls, sameSchema]
    exact Reader.recalled_eq_some_iff.mpr ⟨writable, memory_kept held other fallback asked⟩

/-- No layer refuses to be asked for the schema. -/
def Opens (settings : Settings) (schema : Value) : Prop :=
  ∀ path, ∃ found,
    settings.layers.resolve (effectiveSchema schema settings.reader.schema) path = .ok found

theorem Opens.readTo (opens : before.Opens schema) (read : before.ReadTo after) :
    after.Opens schema := by
  intro path
  rw [read.layers, read.schema]
  exact opens path

theorem Opens.read (opens : settings.Opens schema) (key : String) (fallback : Value) :
    ∃ found, (settings.read key fallback schema).1 = .ok found := by
  change ∃ found, (settings.reader.read settings.layers key fallback schema).1 = .ok found
  cases free : settings.reader.recalled (effectiveSchema schema settings.reader.schema) key with
  | some present => exact ⟨present, by rw [Reader.read_of_remembered free]⟩
  | none =>
    obtain ⟨found, resolved⟩ := opens (path key)
    refine ⟨found.getD fallback, ?_⟩
    rw [Reader.read_of_forgotten free]
    simp only [Layers.uncached, resolved]
    rfl

/-- A lookup is for the schema asked for or for the reader's own, if it is for any. -/
theorem eq_of_effectiveSchema {asked own name : Value}
    (effective : effectiveSchema asked own = some name) : name = asked ∨ name = own := by
  unfold effectiveSchema at effective
  split at effective
  · exact Or.inl (Option.some.inj effective).symm
  · split at effective
    · exact Or.inr (Option.some.inj effective).symm
    · cases effective

theorem inRuntime_of_isKey (layers : Layers) {name : Value} (isKey : name.isKey = true)
    (path : List String) : ∃ found, layers.inRuntime name path = .ok found := by
  rw [Layers.inRuntime, ValueTable.find_of_isKey isKey]
  exact ⟨_, rfl⟩

theorem inSchema_of_isKey (layers : Layers) {name : Value} (isKey : name.isKey = true)
    (listed : ∀ host, layers.host = some host → ∃ entries, host.schemaEntries = .ok entries)
    (path : List String) : ∃ found, layers.inSchema name path = .ok found := by
  cases here : layers.host with
  | none => exact ⟨none, by simp only [Layers.inSchema, here]⟩
  | some host =>
    obtain ⟨entries, known⟩ := listed host here
    simp only [Layers.inSchema, here, known, bind, Except.bind, ValueTable.find_of_isKey isKey]
    exact ⟨_, rfl⟩

/-- The schema that a lookup is for can be written. -/
def Writes (settings : Settings) (schema : Value) : Prop :=
  (effectiveSchema schema settings.reader.schema).all Value.isWritable = true

theorem Opens.writes (opens : settings.Opens schema) : settings.Writes schema := by
  obtain ⟨found, resolved⟩ := opens []
  exact Layers.isWritable_of_resolve resolved

theorem Recalls.writes (recalls : settings.Recalls key schema value) : settings.Writes schema :=
  (Reader.recalled_eq_some_iff.mp recalls).1

theorem Writes.readTo (writes : before.Writes schema) (read : before.ReadTo after) :
    after.Writes schema := by
  rw [Writes, read.schema]
  exact writes

theorem writes_of_readTo (writes : after.Writes schema) (read : before.ReadTo after) :
    before.Writes schema := by
  rw [Writes, read.schema] at writes
  exact writes

/-- For a schema that cannot be written nothing is looked up at all. -/
theorem read_of_not_writes (unwritable : ¬ settings.Writes schema) (key : String)
    (fallback : Value) :
    settings.read key fallback schema = (.error (.longNumber none), settings) := by
  have free : settings.reader.recalled (effectiveSchema schema settings.reader.schema) key = none :=
    Reader.recalled_of_unwritable (by simpa [Writes] using unwritable)
  have refused :
      settings.layers.resolve (effectiveSchema schema settings.reader.schema) (path key) =
        .error (.longNumber none) := by
    cases effective : effectiveSchema schema settings.reader.schema with
    | none => simp [Writes, effective] at unwritable
    | some name =>
      have long : name.isWritable = false := by simpa [Writes, effective] using unwritable
      simp only [Layers.resolve, Value.checkWritable, long, Bool.false_eq_true, if_false]
      rfl
  simp only [Settings.read, Reader.read_of_forgotten free, Layers.uncached, refused]
  rfl

/-- A schema that can be written and looked up is refused by no layer where the host's records for
schemas are records. -/
theorem opens_of_isKey (writes : settings.Writes schema) (asked : schema.isKey = true)
    (own : settings.reader.schema.isKey = true)
    (listed : ∀ host, settings.layers.host = some host →
      ∃ entries, host.schemaEntries = .ok entries) : settings.Opens schema := by
  intro path
  cases effective : effectiveSchema schema settings.reader.schema with
  | none => exact ⟨_, rfl⟩
  | some name =>
    have isKey : name.isKey = true := by
      rcases eq_of_effectiveSchema effective with rfl | rfl
      · exact asked
      · exact own
    obtain ⟨configured, runtime⟩ := inRuntime_of_isKey settings.layers isKey path
    obtain ⟨special, bySchema⟩ := inSchema_of_isKey settings.layers isKey listed path
    have written : name.checkWritable = .ok () := if_pos (by simpa [Writes, effective] using writes)
    rw [Layers.resolve, written]
    change ∃ found, (settings.layers.inRuntime name path >>= _) = _
    rw [runtime]
    cases configured with
    | some value => exact ⟨some value, rfl⟩
    | none =>
      refine ⟨special.orElse fun _ => settings.layers.inGeneral path, ?_⟩
      change (settings.layers.inSchema name path >>= fun found =>
        pure (found.orElse fun _ => settings.layers.inGeneral path)) = _
      rw [bySchema]
      rfl

/-- The library itself says something of the setting. -/
def HasDefault (key : String) : Prop := (walk defaults (path key)).isSome = true

theorem resolve_of_hasDefault {layers : Layers} {schema : Option Value} {found : Option Value}
    (default : HasDefault key) (resolved : layers.resolve schema (path key) = .ok found) :
    ∃ value, found = some value := by
  -- The layers for all schemas lead to something, if only to the library's default.
  have general : ∃ value, layers.inGeneral (path key) = some value := by
    obtain ⟨value, given⟩ := Option.isSome_iff_exists.mp default
    cases shared : layers.inShared (path key) with
    | some other => exact ⟨other, by simp [Layers.inGeneral, shared]⟩
    | none => exact ⟨value, by simp [Layers.inGeneral, shared, given]⟩
  obtain ⟨value, given⟩ := general
  cases schema with
  | none =>
    rw [Layers.resolve, given] at resolved
    exact ⟨value, (Except.ok.inj resolved).symm⟩
  | some name =>
    obtain ⟨_, -, resolved⟩ := bind_eq_ok_iff.mp resolved
    obtain ⟨configured, -, rest⟩ := bind_eq_ok_iff.mp resolved
    cases configured with
    | some other => exact ⟨other, (Except.ok.inj rest).symm⟩
    | none =>
      obtain ⟨special, -, last⟩ := bind_eq_ok_iff.mp rest
      cases special with
      | some other => exact ⟨other, (Except.ok.inj last).symm⟩
      | none => exact ⟨value, (Except.ok.inj last).symm.trans given⟩

/-- The four ways of answering a lookup. Only a value that is found in the layers is new to the
memory. -/
theorem read_cases (settings : Settings) (key : String) (fallback schema : Value) :
    (∃ value, settings.Recalls key schema value ∧
        settings.read key fallback schema = (.ok value, settings)) ∨
      (∃ fault, settings.read key fallback schema = (.error fault, settings)) ∨
      (settings.layers.resolve (effectiveSchema schema settings.reader.schema) (path key) =
          .ok none ∧ settings.read key fallback schema = (.ok fallback, settings)) ∨
      ∃ value after,
        settings.layers.resolve (effectiveSchema schema settings.reader.schema) (path key) =
          .ok (some value) ∧
        settings.read key fallback schema = (.ok value, after) ∧
        after.Recalls key schema value := by
  cases held : settings.reader.recalled (effectiveSchema schema settings.reader.schema) key with
  | some present => exact Or.inl ⟨present, held, Recalls.read held fallback⟩
  | none =>
    right
    simp only [Settings.read, Reader.read_of_forgotten held, Layers.uncached]
    cases resolved : settings.layers.resolve (effectiveSchema schema settings.reader.schema)
      (path key) with
    | error fault => exact Or.inl ⟨fault, rfl⟩
    | ok result =>
      cases result with
      | none => exact Or.inr (Or.inl ⟨rfl, rfl⟩)
      | some present =>
        refine Or.inr (Or.inr ⟨present, _, rfl, rfl, ?_⟩)
        refine Reader.recalled_eq_some_iff.mpr ⟨Layers.isWritable_of_resolve resolved, ?_⟩
        simp only [Reader.noting, Reader.remember, Table.lookup_put, if_pos]

/-- What is read of a setting with a default is remembered. -/
theorem recalls_read (default : HasDefault key) {fallback found : Value}
    (answered : (settings.read key fallback schema).1 = .ok found) :
    (settings.read key fallback schema).2.Recalls key schema found := by
  obtain ⟨value, recalls, read⟩ | ⟨fault, read⟩ | ⟨nothing, -⟩ | ⟨value, after, -, read, recalls⟩ :=
    read_cases settings key fallback schema
  · rw [read] at answered ⊢
    exact Except.ok.inj answered ▸ recalls
  · rw [read] at answered
    cases answered
  · obtain ⟨value, absurd⟩ := resolve_of_hasDefault default nothing
    cases absurd
  · rw [read] at answered ⊢
    exact Except.ok.inj answered ▸ recalls

theorem reader_ensureHost (settings : Settings) : settings.ensureHost.reader = settings.reader := by
  unfold ensureHost
  split <;> rfl

theorem reader_amendTop (settings : Settings) (change : HostLevel → HostLevel) :
    (settings.amendTop change).reader = settings.reader := by
  unfold amendTop
  split <;> rfl

theorem schema_leave (settings : Settings) :
    settings.leave.reader.schema = settings.reader.schema := by
  unfold leave
  split
  · rfl
  · dsimp only
    split
    · rw [reader_ensureHost]
      rfl
    · rfl

theorem schema_assign (settings : Settings) (setting : HostSetting) (value : Value) :
    (settings.assign setting value).reader.schema = settings.reader.schema := by
  rw [assign, renew_eq]
  exact congrArg Reader.schema ((reader_amendTop _ _).trans (reader_ensureHost settings))

theorem schema_remove (settings : Settings) (setting : HostSetting) :
    (settings.remove setting).2.reader.schema = settings.reader.schema := by
  unfold remove
  dsimp only
  split
  · rw [reader_ensureHost]
  · rw [reader_amendTop, reader_ensureHost]

theorem schema_announce (settings : Settings) (setting : Option HostSetting) :
    (settings.announce setting).reader.schema = settings.reader.schema := by
  unfold announce
  split
  · split <;> rfl
  · rfl

theorem reader_unconfigure (settings : Settings) :
    settings.unconfigure.reader = settings.reader := by
  unfold unconfigure
  split <;> rfl

theorem reader_reconfigure (settings : Settings) :
    settings.reconfigure.reader = settings.reader := by
  unfold reconfigure
  split <;> rfl

theorem schema_configure {sections : Sections}
    (written : before.configure schema sections = .ok after) :
    after.reader.schema = before.reader.schema := by
  obtain ⟨serial, opened, ensured, rfl⟩ := configure_eq written
  rcases ensureFolder_cases ensured with ⟨rfl, -⟩ | ⟨-, -, rfl⟩
  · rfl
  · rfl

end CustomScalars.Settings
