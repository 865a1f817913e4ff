import CustomScalars.Proofs.Settings.Reading

/-!
# Fresh memories

The memory of a reader is fresh when everything in it is what the layers hold now. A read keeps it
so, and clearing it makes it so whatever the layers have become. The host has to be there: a host
that is set up anew in the middle of a change has other settings than no host at all.
-/
namespace CustomScalars.Settings

namespace Layers

variable {layers : Layers} {path : List String} {value : Value}

theorem inShared_ne_null (found : layers.inShared path = some value) : value.isNull = false := by
  simp only [inShared, Option.bind_eq_some_iff] at found
  obtain ⟨host, -, settings, -, reached⟩ := found
  exact walk_ne_null reached

theorem inGeneral_ne_null (found : layers.inGeneral path = some value) : value.isNull = false := by
  cases shared : layers.inShared path with
  | some here =>
    simp only [inGeneral, shared, Option.orElse_some, Option.some.injEq] at found
    exact inShared_ne_null (found ▸ shared)
  | none =>
    simp only [inGeneral, shared, Option.orElse_none] at found
    exact walk_ne_null found

theorem inRuntime_ne_null {schema : Value}
    (found : layers.inRuntime schema path = .ok (some value)) : value.isNull = false := by
  obtain ⟨sections, -, walked⟩ := bind_eq_ok_iff.mp found
  obtain ⟨entries, -, reached⟩ := Option.bind_eq_some_iff.mp (Except.ok.inj walked)
  exact walk_ne_null reached

theorem inSchema_ne_null {schema : Value}
    (found : layers.inSchema schema path = .ok (some value)) : value.isNull = false := by
  cases there : layers.host with
  | none => simp [inSchema, there] at found
  | some host =>
    simp only [inSchema, there] at found
    obtain ⟨entries, -, found⟩ := bind_eq_ok_iff.mp found
    obtain ⟨entry, -, walked⟩ := bind_eq_ok_iff.mp found
    obtain ⟨settings, -, reached⟩ := Option.bind_eq_some_iff.mp (Except.ok.inj walked)
    exact walk_ne_null reached

theorem resolve_ne_null {schema : Option Value}
    (found : layers.resolve schema path = .ok (some value)) : value.isNull = false := by
  cases schema with
  | none => exact inGeneral_ne_null (Except.ok.inj found)
  | some name =>
    obtain ⟨_, -, found⟩ := bind_eq_ok_iff.mp found
    obtain ⟨runtime, first, found⟩ := bind_eq_ok_iff.mp found
    cases runtime with
    | some here =>
      cases Except.ok.inj found
      exact inRuntime_ne_null first
    | none =>
      obtain ⟨here, second, found⟩ := bind_eq_ok_iff.mp found
      cases here with
      | some here =>
        cases Except.ok.inj found
        exact inSchema_ne_null second
      | none => exact inGeneral_ne_null (Except.ok.inj found)

end Layers

namespace Reader

/-- Everything in the memory was found, and is what the layers hold now for some schema and key
that are remembered under its name. -/
def Fresh (reader : Reader) (layers : Layers) : Prop :=
  ∀ name value, (name, value) ∈ reader.memory →
    value.isNull = false ∧ ∃ asked key,
      memoryName (effectiveSchema asked reader.schema) key = name ∧
        layers.resolve (effectiveSchema asked reader.schema) (path key) = .ok (some value)

theorem fresh_clear (reader : Reader) (layers : Layers) : reader.clear.Fresh layers := by
  intro name value member
  cases member

theorem Fresh.read {reader : Reader} {layers : Layers} (fresh : reader.Fresh layers)
    (key : String) (fallback asked : Value) :
    (reader.read layers key fallback asked).2.Fresh layers := by
  simp only [Reader.read]
  -- Of the four ways to answer only the last writes to the memory, and it writes what it found.
  split
  · exact fresh
  · split
    · exact fresh
    · exact fresh
    next value found =>
      intro name other member
      rcases Table.mem_put member with new | old
      · obtain ⟨rfl, rfl⟩ := Prod.mk.injEq .. ▸ new
        exact ⟨Layers.resolve_ne_null found, asked, key, rfl, found⟩
      · exact fresh name other old

theorem Fresh.of_resolve {reader : Reader} {layers changed : Layers} (fresh : reader.Fresh layers)
    (same : ∀ schema path, changed.resolve schema path = layers.resolve schema path) :
    reader.Fresh changed := by
  intro name value member
  obtain ⟨present, asked, key, named, found⟩ := fresh name value member
  exact ⟨present, asked, key, named, (same _ _).trans found⟩

end Reader

/-- There is a host, and there was one wherever an open override goes back to. -/
structure Hosted (settings : Settings) : Prop where
  here : settings.levels ≠ []
  outside : ∀ outer ∈ settings.outer, outer.levels ≠ []

/-- The memory that everyone shares is fresh. -/
def Fresh (settings : Settings) : Prop := settings.reader.Fresh settings.layers

variable {settings before after : Settings}

theorem levels_ne_nil_of_host {host : Host} (configured : settings.layers.host = some host) :
    settings.levels ≠ [] := by
  intro none
  simp only [layers, none] at configured
  cases configured

theorem ensureHost_of_levels (here : settings.levels ≠ []) : settings.ensureHost = settings := by
  unfold ensureHost
  split
  next none => exact absurd none here
  · rfl

theorem fresh_clear (settings : Settings) : settings.clear.Fresh :=
  Reader.fresh_clear settings.reader settings.layers

theorem ReadTo.hosted (read : before.ReadTo after) (hosted : before.Hosted) : after.Hosted := by
  rw [read.frame]
  exact ⟨hosted.here, hosted.outside⟩

theorem ReadTo.fresh (read : before.ReadTo after) (fresh : before.Fresh) : after.Fresh := by
  induction read with
  | refl => exact fresh
  | tail _ looked ih =>
    obtain ⟨key, fallback, schema, rfl⟩ := looked
    exact ih.read key fallback schema

theorem Hosted.amendTop (hosted : settings.Hosted) (change : HostLevel → HostLevel) :
    (settings.amendTop change).Hosted := by
  unfold Settings.amendTop
  split
  · exact hosted
  next top below levels =>
    refine ⟨?_, fun outer member => ?_⟩
    · simp [amend, levels]
    · obtain ⟨former, known, rfl⟩ := List.mem_map.mp member
      simpa [amend] using hosted.outside former known

theorem Hosted.assign (hosted : settings.Hosted) (setting : HostSetting) (value : Value) :
    (settings.assign setting value).Hosted := by
  rw [Settings.assign, ensureHost_of_levels hosted.here, renew_eq]
  have amended := hosted.amendTop fun level => level.put setting (.given value)
  exact ⟨amended.here, amended.outside⟩

theorem Hosted.remove (hosted : settings.Hosted) (setting : HostSetting) :
    (settings.remove setting).2.Hosted := by
  simp only [Settings.remove, ensureHost_of_levels hosted.here]
  split
  · exact hosted
  · exact hosted.amendTop _

theorem Hosted.enter (hosted : settings.Hosted) (shared bySchema : Option Value) :
    (settings.enter shared bySchema).Hosted := by
  refine ⟨List.cons_ne_nil _ _, ?_⟩
  intro outer member
  -- What the new override lays aside are the levels of now.
  rcases List.mem_cons.mp member with rfl | further
  · exact hosted.here
  · exact hosted.outside outer further

/-- An override that is closed asks its host for a setting, which is there already. -/
theorem leave_of_outer {first : Outer} {rest : List Outer} (opened : settings.outer = first :: rest)
    (here : first.levels ≠ []) :
    settings.leave =
      clear { settings with runtime := first.runtime, levels := first.levels, outer := rest } := by
  simp only [leave, opened]
  split
  · exact ensureHost_of_levels here
  · rfl

theorem Hosted.leave (hosted : settings.Hosted) : settings.leave.Hosted := by
  cases opened : settings.outer with
  | nil =>
    rw [Settings.leave, opened]
    exact hosted
  | cons first rest =>
    have here := hosted.outside first (opened ▸ List.mem_cons_self)
    rw [leave_of_outer opened here]
    refine ⟨here, fun outer member => hosted.outside outer ?_⟩
    exact opened ▸ List.mem_cons_of_mem first member

theorem Fresh.leave (fresh : settings.Fresh) (hosted : settings.Hosted) : settings.leave.Fresh := by
  cases opened : settings.outer with
  | nil =>
    rw [Settings.leave, opened]
    exact fresh
  | cons first rest =>
    rw [leave_of_outer opened (hosted.outside first (opened ▸ List.mem_cons_self))]
    exact fresh_clear _

/-- Configuring takes a number for a folder at most, and writes to folders of one number. -/
theorem configure_eq {schema : Value} {sections : Sections}
    (written : before.configure schema sections = .ok after) :
    ∃ serial opened, before.ensureFolder schema = .ok (serial, opened) ∧
      after = clear (opened.fill serial sections) := by
  obtain ⟨⟨serial, opened⟩, ensured, done⟩ := bind_eq_ok_iff.mp written
  exact ⟨serial, opened, ensured, (Except.ok.inj done).symm⟩

/-- A schema has a folder already, or its new one takes the next number. -/
theorem ensureFolder_cases {schema : Value} {serial : Nat} {opened : Settings}
    (ensured : settings.ensureFolder schema = .ok (serial, opened)) :
    (opened = settings ∧ ∃ folder, settings.runtime.lookup schema = some folder ∧
        serial = folder.serial) ∨
      (settings.runtime.lookup schema = none ∧ serial = settings.nextSerial ∧
        opened = { settings with
          runtime := settings.runtime.put schema ⟨settings.nextSerial, []⟩
          nextSerial := settings.nextSerial + 1 }) := by
  obtain ⟨found, looked, done⟩ := bind_eq_ok_iff.mp ensured
  obtain ⟨⟨⟩, -, looked⟩ := bind_eq_ok_iff.mp looked
  cases looked
  cases known : settings.runtime.lookup schema with
  | some folder =>
    rw [known] at done
    cases done
    exact Or.inl ⟨rfl, folder, rfl, rfl⟩
  | none =>
    rw [known] at done
    cases done
    exact Or.inr ⟨rfl, rfl, rfl⟩

theorem Hosted.configure {schema : Value} {sections : Sections} (hosted : before.Hosted)
    (written : before.configure schema sections = .ok after) : after.Hosted := by
  obtain ⟨serial, opened, ensured, rfl⟩ := configure_eq written
  have same : opened.levels = before.levels ∧ opened.outer = before.outer := by
    rcases ensureFolder_cases ensured with ⟨rfl, -⟩ | ⟨-, -, rfl⟩
    · exact ⟨rfl, rfl⟩
    · exact ⟨rfl, rfl⟩
  refine ⟨same.1 ▸ hosted.here, fun outer member => ?_⟩
  obtain ⟨former, known, rfl⟩ := List.mem_map.mp member
  exact hosted.outside former (same.2 ▸ known)

theorem Fresh.configure {schema : Value} {sections : Sections}
    (written : before.configure schema sections = .ok after) : after.Fresh := by
  obtain ⟨serial, opened, -, rfl⟩ := configure_eq written
  exact fresh_clear _

/-- Nothing that is looked up depends on the debug mode. -/
theorem resolve_addLevel_debug (here : settings.levels ≠ []) (debug : Value)
    (schema : Option Value) (path : List String) :
    (settings.addLevel none none (some debug)).layers.resolve schema path =
      settings.layers.resolve schema path := by
  cases levels : settings.levels with
  | nil => exact absurd levels here
  | cons top below =>
    -- The new level inherits the two settings that the layers are made of.
    cases schema with
    | none =>
      simp only [layers, addLevel, levels]
      rfl
    | some name =>
      simp only [layers, addLevel, levels]
      rfl

end CustomScalars.Settings
