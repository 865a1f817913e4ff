import CustomScalars.Proofs.Settings.Layering
import CustomScalars.Proofs.Settings.Numbering
import CustomScalars.Proofs.Table
import CustomScalars.Value.Same

/-!
# One folder for one schema

Sections are written into a folder by its number, so they come to the schema that they are meant for
only if no other schema has a folder of that number. In every state a number belongs to one schema
of those in use, and to one of those that an override has laid aside. What is configured for a
schema is therefore added to what was configured for it before, section by section, and nothing that
is configured for any other schema changes.
-/
namespace CustomScalars

namespace Value

/-- A text is looked up under texts alone, and brands make no difference. -/
theorem same_text_iff {value : Value} {brand : Option String} {name : String} :
    value.same (.text brand name) = true ↔ ∃ own, value = .text own name := by
  cases value <;> simp [same, wholeNumber?]

theorem text_same_iff {value : Value} {brand : Option String} {name : String} :
    (Value.text brand name).same value = true ↔ ∃ own, value = .text own name := by
  cases value with
  | text own content =>
    have written : (∃ other, Value.text own content = .text other name) ↔ name = content :=
      ⟨fun ⟨_, equal⟩ => (Value.text.inj equal).2.symm, fun equal => ⟨own, by rw [equal]⟩⟩
    rw [written]
    simp [same]
  | _ => simp [same]

theorem isKey_text (brand : Option String) (name : String) :
    (Value.text brand name).isKey = true := by
  simp [isKey]

end Value

namespace ValueTable

variable {α β : Type} {table : ValueTable α} {key : Value} {value : α}

theorem lookup_map (table : ValueTable α) (change : α → β) (key : Value) :
    ValueTable.lookup (table.map fun entry => (entry.1, change entry.2)) key =
      (table.lookup key).map change := by
  simp only [lookup, List.find?_map, Option.map_map]
  rfl

/-- What is found under a key is there under a key that is the same. -/
theorem mem_same_of_lookup (found : table.lookup key = some value) :
    ∃ present, (present, value) ∈ table ∧ present.same key = true := by
  obtain ⟨⟨present, _⟩, here, rfl⟩ := Option.map_eq_some_iff.mp found
  have same := List.find?_some here
  exact ⟨present, List.mem_of_find?_eq_some here, same⟩

theorem lookup_text (table : ValueTable α) (brand other : Option String) (name : String) :
    table.lookup (.text brand name) = table.lookup (.text other name) := by
  have same (present : Value) : present.same (.text brand name) = present.same (.text other name) :=
    Bool.eq_iff_iff.mpr (Value.same_text_iff.trans Value.same_text_iff.symm)
  simp only [lookup, same]

theorem put_of_new (new : table.lookup key = none) (value : α) :
    table.put key value = table ++ [(key, value)] := by
  induction table with
  | nil => rfl
  | cons entry rest ih =>
    obtain ⟨present, old⟩ := entry
    have absent := List.find?_eq_none.mp (Option.map_eq_none_iff.mp new)
    have other : ¬ present.same key = true := absent (present, old) List.mem_cons_self
    have later : ValueTable.lookup rest key = none :=
      Option.map_eq_none_iff.mpr (List.find?_eq_none.mpr fun entry member =>
        absent entry (List.mem_cons_of_mem _ member))
    rw [put, if_neg other, ih later, List.cons_append]

theorem lookup_append_singleton (table : ValueTable α) (key : Value) (value : α) (other : Value) :
    ValueTable.lookup (table ++ [(key, value)]) other =
      (table.lookup other).or (if key.same other then some value else none) := by
  rw [lookup, List.find?_append, lookup]
  cases table.find? fun entry => entry.1.same other with
  | some entry => rfl
  | none => by_cases same : key.same other = true <;> simp [same]

end ValueTable

namespace Settings

namespace Runtime

def serials (runtime : Runtime) : List Nat := runtime.map fun entry => entry.2.serial

theorem serials_fill (runtime : Runtime) (serial : Nat) (sections : Sections) :
    (runtime.fill serial sections).serials = runtime.serials := by
  have kept (entry : Value × Folder) :
      (if entry.2.serial = serial then entry.2.add sections else entry.2).serial =
        entry.2.serial := by
    split <;> rfl
  simp only [serials, fill, List.map_map, Function.comp_def, kept]

theorem lookup_contents_fill (runtime : Runtime) (serial : Nat) (sections : Sections)
    (key : Value) : (runtime.fill serial sections).contents.lookup key =
      (runtime.lookup key).map fun folder =>
        if folder.serial = serial then folder.sections.putAll sections else folder.sections := by
  -- Filling changes what is in a folder, and not under which key it is found.
  let change (folder : Folder) := if folder.serial = serial then folder.add sections else folder
  have written (folder : Folder) : (change folder).sections =
      if folder.serial = serial then folder.sections.putAll sections else folder.sections := by
    simp only [change]
    split <;> rfl
  have filled : (runtime.fill serial sections).lookup key = (runtime.lookup key).map change :=
    ValueTable.lookup_map runtime change key
  rw [contents, ValueTable.lookup_map, filled, Option.map_map]
  simp only [Function.comp_def, written]

/-- Where numbers stand once, the folders of one number are one. -/
theorem eq_of_serial {runtime : Runtime} (distinct : runtime.serials.Nodup)
    {first second : Value × Folder} (here : first ∈ runtime) (there : second ∈ runtime)
    (same : first.2.serial = second.2.serial) : first = second :=
  List.inj_on_of_nodup_map distinct here there same

end Runtime

/-- The folders in use, and those that were in use outside of the open overrides. -/
def runtimes (settings : Settings) : List Runtime :=
  settings.runtime :: settings.outer.map Outer.runtime

/-- No two schemas of those in use together have folders of one number. -/
def Unshared (settings : Settings) : Prop := ∀ runtime ∈ settings.runtimes, runtime.serials.Nodup

variable {settings before after : Settings}

theorem unshared_initial : Settings.initial.Unshared := by
  intro runtime member
  rw [List.mem_singleton.mp member]
  exact List.nodup_nil

theorem Unshared.of_runtimes (unshared : before.Unshared)
    (same : after.runtimes = before.runtimes) : after.Unshared :=
  fun runtime member => unshared runtime (same ▸ member)

theorem ReadTo.runtimes (read : before.ReadTo after) : after.runtimes = before.runtimes := by
  rw [read.frame]
  rfl

theorem runtimes_ensureHost (settings : Settings) :
    settings.ensureHost.runtimes = settings.runtimes := by
  unfold ensureHost
  split <;> rfl

theorem runtimes_useUp (settings : Settings) : settings.useUp.runtimes = settings.runtimes := by
  rw [useUp_eq]
  rfl

theorem runtimes_amendTop (settings : Settings) (change : HostLevel → HostLevel) :
    (settings.amendTop change).runtimes = settings.runtimes := by
  unfold amendTop
  split
  · rfl
  · simp only [runtimes, List.map_map, Function.comp_def]

theorem runtimes_assign (settings : Settings) (setting : HostSetting) (value : Value) :
    (settings.assign setting value).runtimes = settings.runtimes := by
  rw [assign, renew_eq]
  exact (runtimes_amendTop _ _).trans (runtimes_ensureHost settings)

theorem runtimes_remove (settings : Settings) (setting : HostSetting) :
    (settings.remove setting).2.runtimes = settings.runtimes := by
  simp only [remove]
  split
  · exact runtimes_ensureHost settings
  · exact (runtimes_amendTop _ _).trans (runtimes_ensureHost settings)

theorem runtimes_announce (settings : Settings) (setting : Option HostSetting) :
    (settings.announce setting).runtimes = settings.runtimes := by
  unfold announce
  split
  · split <;> rfl
  · rfl

theorem runtimes_unconfigure (settings : Settings) :
    settings.unconfigure.runtimes = settings.runtimes := by
  unfold unconfigure
  split <;> rfl

theorem runtimes_reconfigure (settings : Settings) :
    settings.reconfigure.runtimes = settings.runtimes := by
  unfold reconfigure
  split <;> rfl

theorem Unshared.enter (unshared : settings.Unshared) (shared bySchema : Option Value) :
    (settings.enter shared bySchema).Unshared := by
  intro runtime member
  rcases List.mem_cons.mp member with rfl | former
  · exact List.nodup_nil
  · exact unshared runtime former

theorem Unshared.leave (unshared : settings.Unshared) : settings.leave.Unshared := by
  cases opened : settings.outer with
  | nil =>
    rw [Settings.leave, opened]
    exact unshared
  | cons first rest =>
    -- What comes back into use was laid aside as it is.
    have restored : settings.leave.runtimes = first.runtime :: rest.map Outer.runtime := by
      simp only [Settings.leave, opened]
      split
      · exact runtimes_ensureHost _
      · rfl
    intro runtime member
    apply unshared runtime
    rw [runtimes, opened, List.map_cons]
    exact List.mem_cons_of_mem _ (restored ▸ member)

theorem runtimes_fill (settings : Settings) (serial : Nat) (sections : Sections) :
    (settings.fill serial sections).runtimes =
      settings.runtimes.map (Runtime.fill serial sections) := by
  simp only [runtimes, fill, List.map_cons, List.map_map, Function.comp_def]

theorem Unshared.fill (unshared : settings.Unshared) (serial : Nat) (sections : Sections) :
    (settings.fill serial sections).Unshared := by
  intro runtime member
  rw [runtimes_fill] at member
  obtain ⟨former, known, rfl⟩ := List.mem_map.mp member
  rw [Runtime.serials_fill]
  exact unshared former known

/-- What is configured at run time for the schema of a name. -/
def sectionsOf (settings : Settings) (name : String) : Sections :=
  (settings.runtime.contents.lookup (.ofText name)).getD []

theorem configured_text (settings : Settings) (brand : Option String) (name : String) :
    settings.layers.configured (.text brand name) = .ofEntries (settings.sectionsOf name) := by
  rw [Layers.configured, ValueTable.lookup_text _ brand none]
  rfl

theorem sectionsOf_eq (settings : Settings) (name : String) :
    settings.sectionsOf name =
      ((settings.runtime.lookup (.ofText name)).map Folder.sections).getD [] := by
  rw [sectionsOf, Runtime.contents, ValueTable.lookup_map]

section
variable {schema : Value} {serial : Nat} {opened : Settings} {sections : Sections} {name : String}

/-- A new folder has a number that none had before. -/
theorem Unshared.ensureFolder (unshared : settings.Unshared) (numbered : settings.Numbered)
    (ensured : settings.ensureFolder schema = .ok (serial, opened)) : opened.Unshared := by
  rcases ensureFolder_cases ensured with ⟨rfl, -⟩ | ⟨new, -, rfl⟩
  · exact unshared
  · intro runtime member
    rcases List.mem_cons.mp member with rfl | former
    · have distinct := unshared settings.runtime List.mem_cons_self
      rw [ValueTable.put_of_new new, Runtime.serials, List.map_append, List.nodup_append]
      refine ⟨distinct, List.nodup_singleton _, ?_⟩
      -- All that were in use are below the number that the new one takes.
      rintro old member _ added rfl
      obtain ⟨entry, present, same⟩ := List.mem_map.mp member
      have below : entry.2.serial < settings.nextSerial := numbered.runtime entry present
      rw [same, List.mem_singleton.mp added] at below
      exact Nat.lt_irrefl _ below
    · exact unshared runtime (List.mem_cons_of_mem _ former)

/-- The folder that is written to is there, under the schema or under one that is the same. -/
theorem folder_of_ensureFolder (ensured : settings.ensureFolder schema = .ok (serial, opened)) :
    ∃ key folder, (key, folder) ∈ opened.runtime ∧ folder.serial = serial ∧
      (key = schema ∨ key.same schema = true) := by
  rcases ensureFolder_cases ensured with ⟨rfl, folder, found, rfl⟩ | ⟨new, rfl, rfl⟩
  · obtain ⟨key, member, same⟩ := ValueTable.mem_same_of_lookup found
    exact ⟨key, folder, member, rfl, Or.inr same⟩
  · refine ⟨schema, ⟨settings.nextSerial, []⟩, ?_, rfl, Or.inl rfl⟩
    rw [ValueTable.put_of_new new]
    exact List.mem_append_right _ List.mem_cons_self

/-- A folder is empty when it is made. -/
theorem sectionsOf_ensureFolder (ensured : settings.ensureFolder schema = .ok (serial, opened))
    (name : String) : opened.sectionsOf name = settings.sectionsOf name := by
  rcases ensureFolder_cases ensured with ⟨rfl, -⟩ | ⟨new, -, rfl⟩
  · rfl
  · -- A schema that finds the new folder found none before, which says the same.
    rw [sectionsOf_eq, sectionsOf_eq, ValueTable.put_of_new new,
      ValueTable.lookup_append_singleton]
    cases settings.runtime.lookup (.ofText name) with
    | some folder => rfl
    | none => cases schema.same (.ofText name) <;> rfl

theorem lookup_of_ensureFolder_text {brand : Option String}
    (ensured : settings.ensureFolder (.text brand name) = .ok (serial, opened)) :
    ∃ folder, opened.runtime.lookup (.ofText name) = some folder ∧ folder.serial = serial := by
  rcases ensureFolder_cases ensured with ⟨rfl, folder, found, rfl⟩ | ⟨new, rfl, rfl⟩
  · exact ⟨folder, (ValueTable.lookup_text _ none brand name).trans found, rfl⟩
  · have absent : settings.runtime.lookup (.ofText name) = none :=
      (ValueTable.lookup_text _ none brand name).trans new
    have same : (Value.text brand name).same (.ofText name) = true :=
      Value.same_text_iff.mpr ⟨brand, rfl⟩
    refine ⟨⟨settings.nextSerial, []⟩, ?_, rfl⟩
    rw [ValueTable.put_of_new new, ValueTable.lookup_append_singleton, absent, same]
    rfl

theorem Unshared.configure (unshared : before.Unshared) (numbered : before.Numbered)
    (written : before.configure schema sections = .ok after) : after.Unshared := by
  obtain ⟨serial, opened, ensured, rfl⟩ := configure_eq written
  exact ((unshared.ensureFolder numbered ensured).fill serial sections).of_runtimes rfl

theorem sectionsOf_fill (settings : Settings) (serial : Nat) (sections : Sections)
    (name : String) : (settings.fill serial sections).sectionsOf name =
      ((settings.runtime.lookup (.ofText name)).map fun folder =>
        if folder.serial = serial then folder.sections.putAll sections
        else folder.sections).getD [] := by
  rw [← Runtime.lookup_contents_fill]
  rfl

/-- What is configured for a schema is written over what was configured for it before. -/
theorem sectionsOf_configure {brand : Option String}
    (written : before.configure (.text brand name) sections = .ok after) :
    after.sectionsOf name = (before.sectionsOf name).putAll sections := by
  obtain ⟨serial, opened, ensured, rfl⟩ := configure_eq written
  obtain ⟨folder, found, rfl⟩ := lookup_of_ensureFolder_text ensured
  have here : (clear (opened.fill folder.serial sections)).sectionsOf name =
      folder.sections.putAll sections := by
    refine (sectionsOf_fill opened folder.serial sections name).trans ?_
    simp [found]
  have held : opened.sectionsOf name = folder.sections := by
    rw [sectionsOf_eq, found]
    rfl
  rw [here, ← held, sectionsOf_ensureFolder ensured]

/-- What is configured for another schema makes no difference. -/
theorem sectionsOf_configure_other (unshared : before.Unshared) (numbered : before.Numbered)
    (written : before.configure schema sections = .ok after)
    (other : ∀ brand, schema ≠ .text brand name) :
    after.sectionsOf name = before.sectionsOf name := by
  obtain ⟨serial, opened, ensured, rfl⟩ := configure_eq written
  obtain ⟨key, target, member, rfl, whose⟩ := folder_of_ensureFolder ensured
  have distinct := unshared.ensureFolder numbered ensured opened.runtime List.mem_cons_self
  -- Were it the folder of the name, then what it stands under would be a text of that name.
  have apart : ∀ folder, opened.runtime.lookup (.ofText name) = some folder →
      folder.serial ≠ target.serial := by
    intro folder found same
    obtain ⟨present, there, named⟩ := ValueTable.mem_same_of_lookup found
    cases Runtime.eq_of_serial distinct there member same
    obtain ⟨own, rfl⟩ := Value.same_text_iff.mp named
    rcases whose with rfl | like
    · exact other own rfl
    · obtain ⟨brand, rfl⟩ := Value.text_same_iff.mp like
      exact other brand rfl
  rw [← sectionsOf_ensureFolder ensured]
  refine (sectionsOf_fill opened target.serial sections name).trans ?_
  rw [sectionsOf_eq]
  cases found : opened.runtime.lookup (.ofText name) with
  | none => rfl
  | some folder => simp [apart folder found]

/-- Configuring forgets what was read, and leaves the host's settings alone. -/
theorem configure_frame (written : before.configure schema sections = .ok after) :
    after.reader = before.reader.clear ∧ after.levels = before.levels := by
  obtain ⟨serial, opened, ensured, rfl⟩ := configure_eq written
  rcases ensureFolder_cases ensured with ⟨rfl, -⟩ | ⟨-, -, rfl⟩
  · exact ⟨rfl, rfl⟩
  · exact ⟨rfl, rfl⟩

theorem exists_configure (keyed : schema.isKey = true) (settings : Settings)
    (sections : Sections) : ∃ after, settings.configure schema sections = .ok after := by
  simp only [Settings.configure, Settings.ensureFolder, ValueTable.find_of_isKey keyed]
  cases settings.runtime.lookup schema with
  | some folder => exact ⟨_, rfl⟩
  | none => exact ⟨_, rfl⟩

end

end Settings

end CustomScalars
