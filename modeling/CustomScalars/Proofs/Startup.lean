import CustomScalars.Proofs.Image.Extension
import CustomScalars.Proofs.Settings.Freshness
import CustomScalars.Proofs.Settings.Remembering
import CustomScalars.Proofs.Table
import Mathlib.Data.List.Forall2

/-!
# What the check at startup finds

The check lists the scalars of one schema after another and builds an image scalar where it is
enabled. It goes through many reads, and what it says of a schema early on has to hold at the end.
It does, because the settings that an image scalar depends on all have a default: what the check
read of them is remembered, and whoever lists or builds afterwards is answered from the memory. So
the state after the check itself tells which schemas it accepts, and which one it refuses and why.
-/
namespace CustomScalars

namespace Library

/-- What was reported for all to see, without warnings and faults. -/
def infos (library : Library) : List Event := library.events.filter fun event => event.level = .info

/-- The library after one more report. -/
def reported (library : Library) (event : Event) : Library :=
  { library with events := library.events ++ [event] }

theorem infos_reported (library : Library) (event : Event) :
    (library.reported event).infos =
      if event.level = .info then library.infos ++ [event] else library.infos := by
  by_cases info : event.level = .info <;> simp [infos, reported, info]

end Library

theorem Action.outcome_report (event : Event) (library : Library) :
    Effect.outcome (Action.report event) library = (.ok (), library.reported event) := rfl

namespace Startup

open Settings

/-- The image scalar is registered, and its setting for the schema is remembered to enable it. -/
def Enables (registry : Registry) (settings : Settings) (schema : Value) : Prop :=
  Image.standardName ∈ registry.names ∧
    ∃ setting, settings.Recalls (Registry.enabledKey Image.standardName) schema setting ∧
      setting.truthy = true

/-- What building an image scalar for the schema comes to with the settings that are remembered. -/
def Builds (settings : Settings) (schema : Value) (result : Except Fault Definition) : Prop :=
  ∃ extensions caseSensitive, settings.Recalls Image.extensionsKey schema extensions ∧
    settings.Recalls Image.caseSensitiveKey schema caseSensitive ∧
    result = Image.buildScalar (.ofText Image.standardName) (.ofText Image.scalarDescription)
      extensions caseSensitive

/-- It is remembered whether an image scalar is enabled for the schema, and where it is one can be
built. A schema that cannot be written has no scalars to list. -/
structure Accepts (registry : Registry) (settings : Settings) (schema : Value) : Prop where
  lists : settings.Writes schema ∨ registry = []
  known : Image.standardName ∈ registry.names →
    ∃ setting, settings.Recalls (Registry.enabledKey Image.standardName) schema setting
  builds : Enables registry settings schema → ∃ definition, Builds settings schema (.ok definition)

/-- An image scalar is enabled for the schema and cannot be built, or there are scalars to list and
the schema that they are listed for cannot be written. -/
inductive Refuses (registry : Registry) (settings : Settings) (schema : Value) (fault : Fault) :
    Prop where
  | builds : Enables registry settings schema → Builds settings schema (.error fault) →
      Refuses registry settings schema fault
  | lists : registry ≠ [] → ¬ settings.Writes schema → fault = .longNumber none →
      Refuses registry settings schema fault

section
variable {registry : Registry} {before after : Settings} {schema : Value}

theorem Enables.readTo (enables : Enables registry before schema) (read : before.ReadTo after) :
    Enables registry after schema := by
  obtain ⟨registered, setting, recalls, truthy⟩ := enables
  exact ⟨registered, setting, recalls.readTo read, truthy⟩

theorem Builds.readTo {result : Except Fault Definition} (builds : Builds before schema result)
    (read : before.ReadTo after) : Builds after schema result := by
  obtain ⟨extensions, caseSensitive, first, second, same⟩ := builds
  exact ⟨extensions, caseSensitive, first.readTo read, second.readTo read, same⟩

/-- Where a setting is remembered, no later read makes an image scalar enabled that was not. -/
theorem enables_of_readTo
    (known : Image.standardName ∈ registry.names →
      ∃ setting, before.Recalls (Registry.enabledKey Image.standardName) schema setting)
    (read : before.ReadTo after) (enables : Enables registry after schema) :
    Enables registry before schema := by
  obtain ⟨registered, setting, recalls, truthy⟩ := enables
  -- What is remembered now is what was remembered then.
  obtain ⟨former, held⟩ := known registered
  rw [← (held.readTo read).unique recalls] at truthy
  exact ⟨registered, former, held, truthy⟩

theorem Accepts.readTo (accepts : Accepts registry before schema) (read : before.ReadTo after) :
    Accepts registry after schema := by
  refine ⟨accepts.lists.imp_left fun writes => writes.readTo read, ?_, ?_⟩
  · intro registered
    obtain ⟨setting, recalls⟩ := accepts.known registered
    exact ⟨setting, recalls.readTo read⟩
  · intro enables
    obtain ⟨definition, builds⟩ := accepts.builds (enables_of_readTo accepts.known read enables)
    exact ⟨definition, builds.readTo read⟩

theorem Refuses.readTo {fault : Fault} (refuses : Refuses registry before schema fault)
    (read : before.ReadTo after) : Refuses registry after schema fault := by
  cases refuses with
  | builds enables builds => exact .builds (enables.readTo read) (builds.readTo read)
  | lists some unwritable long =>
    exact .lists some (fun writes => unwritable (writes_of_readTo writes read)) long

end

section
variable {library : Library} {schema : Value}

/-- A read that no layer refuses gives an answer, and of a setting with a default it leaves that
answer in the memory. -/
theorem readSetting_answers (opens : library.settings.Opens schema) (key : String)
    (fallback : Value) :
    ∃ setting after, Effect.outcome (Action.readSetting key fallback schema) library =
        (.ok setting, after) ∧
      library.ConsultTo after ∧ after.infos = library.infos ∧
      (HasDefault key → after.settings.Recalls key schema setting) := by
  obtain ⟨setting, answered⟩ := opens.read key fallback
  refine ⟨setting, { library with settings := (library.settings.read key fallback schema).2 }, ?_,
    .single (.looked key fallback schema), rfl, fun default => recalls_read default answered⟩
  rw [Action.outcome_readSetting, answered]

instance (key : String) : Decidable (HasDefault key) :=
  inferInstanceAs (Decidable (_ = true))

theorem hasDefault_enabled : HasDefault (Registry.enabledKey Image.standardName) := by decide

theorem hasDefault_extensions : HasDefault Image.extensionsKey := by decide

theorem hasDefault_caseSensitive : HasDefault Image.caseSensitiveKey := by decide

/-- What listing the scalars among some entries comes to. It announces nothing, and of a scalar
whose setting has a default it is remembered afterwards what enabled the scalar or did not. -/
structure Lists (schema : Value) (before after : Library) (registry enabled : Registry) : Prop where
  consult : before.ConsultTo after
  silent : after.infos = before.infos
  within : ∀ scalar ∈ enabled.names, scalar ∈ registry.names
  known : ∀ scalar ∈ registry.names, HasDefault (Registry.enabledKey scalar) →
    ∃ setting, after.settings.Recalls (Registry.enabledKey scalar) schema setting ∧
      (scalar ∈ enabled.names ↔ setting.truthy = true)

section
variable {between after : Library} {name : String} {setting : Value} {rest others : Registry}

theorem Lists.cons_enabled (lists : Lists schema between after rest others) (issued : Issued)
    (consult : library.ConsultTo between) (silent : between.infos = library.infos)
    (recalls : HasDefault (Registry.enabledKey name) →
      between.settings.Recalls (Registry.enabledKey name) schema setting)
    (truthy : setting.truthy = true) :
    Lists schema library after ((name, issued) :: rest) ((name, issued) :: others) := by
  refine ⟨consult.trans lists.consult, lists.silent.trans silent, ?_, ?_⟩
  · intro scalar member
    rcases List.mem_cons.mp member with here | later
    · exact List.mem_cons.mpr (Or.inl here)
    · exact List.mem_cons.mpr (Or.inr (lists.within scalar later))
  · intro scalar member default
    by_cases here : scalar = name
    · subst here
      have held := (recalls default).readTo lists.consult.readTo
      exact ⟨setting, held, iff_of_true List.mem_cons_self truthy⟩
    · have later := (List.mem_cons.mp member).resolve_left here
      obtain ⟨own, held, decides⟩ := lists.known scalar later default
      refine ⟨own, held, ?_⟩
      rw [← decides]
      exact List.mem_cons.trans (or_iff_right here)

theorem Lists.cons_disabled (lists : Lists schema between after rest others) (issued : Issued)
    (consult : library.ConsultTo between) (silent : between.infos = library.infos)
    (recalls : HasDefault (Registry.enabledKey name) →
      between.settings.Recalls (Registry.enabledKey name) schema setting)
    (falsy : ¬ setting.truthy = true) :
    Lists schema library after ((name, issued) :: rest) others := by
  refine ⟨consult.trans lists.consult, lists.silent.trans silent, ?_, ?_⟩
  · intro scalar member
    exact List.mem_cons.mpr (Or.inr (lists.within scalar member))
  · intro scalar member default
    by_cases here : scalar = name
    · subst here
      have held := (recalls default).readTo lists.consult.readTo
      refine ⟨setting, held, iff_of_false ?_ falsy⟩
      -- If the name came again further down, the same setting would have been read there.
      intro among
      obtain ⟨again, heldAgain, decides⟩ :=
        lists.known scalar (lists.within scalar among) default
      rw [← held.unique heldAgain] at decides
      exact falsy (decides.mp among)
    · exact lists.known scalar ((List.mem_cons.mp member).resolve_left here) default

end

/-- By induction on the entries: each is read before those after it, and what was read of it is
still remembered when they are through. -/
theorem enabledAmong_lists (registry : Registry) (opens : library.settings.Opens schema) :
    ∃ enabled after, Effect.outcome (Registry.enabledAmong schema registry) library =
        (.ok enabled, after) ∧ Lists schema library after registry enabled := by
  induction registry generalizing library with
  | nil =>
    refine ⟨[], library, rfl, .refl, rfl, ?_, ?_⟩
    · exact fun _ member => nomatch member
    · exact fun _ member => nomatch member
  | cons entry rest ih =>
    obtain ⟨name, issued⟩ := entry
    obtain ⟨setting, between, read, consult, silent, recalls⟩ :=
      readSetting_answers opens (Registry.enabledKey name) (.bool true)
    by_cases truthy : setting.truthy = true
    · obtain ⟨others, after, listed, lists⟩ := ih (opens.readTo consult.readTo)
      refine ⟨(name, issued) :: others, after, ?_,
        lists.cons_enabled issued consult silent recalls truthy⟩
      simp only [Registry.enabledAmong, Effect.outcome_bind, read, truthy, if_true, listed,
        Effect.outcome_pure]
    · -- That the scalar is disabled is noted, but not announced.
      let noted := between.reported (.disabled name schema)
      have toNoted : library.ConsultTo noted := consult.tail (.reported _)
      have stillSilent : noted.infos = library.infos :=
        (Library.infos_reported between (.disabled name schema)).trans silent
      obtain ⟨others, after, listed, lists⟩ := ih (opens.readTo toNoted.readTo)
      refine ⟨others, after, ?_, lists.cons_disabled issued toNoted stillSilent recalls truthy⟩
      simp only [Registry.enabledAmong, Effect.outcome_bind, read, truthy, if_false,
        Bool.false_eq_true, Action.outcome_report]
      exact listed

/-- After listing, the memory tells whether the image scalar is among those listed. -/
theorem enabled_answers (opens : library.settings.Opens schema) :
    ∃ enabled after, Effect.outcome (Registry.enabled schema) library = (.ok enabled, after) ∧
      library.ConsultTo after ∧ after.infos = library.infos ∧
      (Image.standardName ∈ library.registry.names →
        ∃ setting, after.settings.Recalls (Registry.enabledKey Image.standardName) schema setting) ∧
      (Image.standardName ∈ enabled.names ↔ Enables library.registry after.settings schema) := by
  obtain ⟨enabled, after, listed, lists⟩ := enabledAmong_lists library.registry opens
  refine ⟨enabled, after, ?_, lists.consult, lists.silent, ?_, ?_⟩
  · simp only [Registry.enabled, Effect.outcome_bind, Effect.outcome_get, listed]
  · intro registered
    obtain ⟨setting, recalls, -⟩ := lists.known _ registered hasDefault_enabled
    exact ⟨setting, recalls⟩
  · constructor
    · intro among
      have registered := lists.within _ among
      obtain ⟨setting, recalls, decides⟩ := lists.known _ registered hasDefault_enabled
      exact ⟨registered, setting, recalls, decides.mp among⟩
    · rintro ⟨registered, setting, recalls, truthy⟩
      obtain ⟨own, held, decides⟩ := lists.known _ registered hasDefault_enabled
      rw [← held.unique recalls] at truthy
      exact decides.mpr truthy

/-- Where the schema cannot be written listing fails on the first scalar that there is. -/
theorem enabled_of_not_writes (unwritable : ¬ library.settings.Writes schema) :
    (library.registry = [] ∧
        Effect.outcome (Registry.enabled schema) library = (.ok [], library)) ∨
      (library.registry ≠ [] ∧
        Effect.outcome (Registry.enabled schema) library =
          (.error (.longNumber none), library)) := by
  simp only [Registry.enabled, Effect.outcome_bind, Effect.outcome_get]
  cases entries : library.registry with
  | nil => exact Or.inl ⟨rfl, rfl⟩
  | cons entry rest =>
    refine Or.inr ⟨List.cons_ne_nil _ _, ?_⟩
    simp only [Registry.enabledAmong, Effect.outcome_bind, Action.outcome_readSetting,
      read_of_not_writes unwritable]

/-- The request for an image scalar with the settings of a schema. -/
def imageRequest (schema : Value) : Image.Request :=
  { Image.Request.standard with schema := schema }

/-- Such a request leaves both the extensions and the policy on case to the settings. -/
theorem configuredScalar_imageRequest (schema : Value) :
    Image.configuredScalar (imageRequest schema) = (do
      let extensions ←
        Action.readSetting Image.extensionsKey Image.Rule.defaultExtensions schema
      let caseSensitive ← Action.readSetting Image.caseSensitiveKey (.bool false) schema
      Action.ofExcept (Image.buildScalar (.ofText Image.standardName)
        (.ofText Image.scalarDescription) extensions caseSensitive)) := rfl

theorem configuredScalar_answers (opens : library.settings.Opens schema) :
    ∃ result after, Effect.outcome (Image.configuredScalar (imageRequest schema)) library =
        (result, after) ∧
      library.ConsultTo after ∧ after.infos = library.infos ∧
      Builds after.settings schema result := by
  obtain ⟨extensions, between, first, toBetween, quiet, recalls⟩ :=
    readSetting_answers opens Image.extensionsKey Image.Rule.defaultExtensions
  obtain ⟨caseSensitive, after, second, toAfter, stillQuiet, recallsToo⟩ :=
    readSetting_answers (opens.readTo toBetween.readTo) Image.caseSensitiveKey (.bool false)
  let result := Image.buildScalar (.ofText Image.standardName) (.ofText Image.scalarDescription)
    extensions caseSensitive
  -- The first of the two settings is still remembered after the second is read.
  refine ⟨result, after, ?_, toBetween.trans toAfter, stillQuiet.trans quiet, extensions,
    caseSensitive, (recalls hasDefault_extensions).readTo toAfter.readTo,
    recallsToo hasDefault_caseSensitive, rfl⟩
  simp only [configuredScalar_imageRequest, Effect.outcome_bind, first, second,
    Action.outcome_ofExcept]
  rfl

/-- Where the memory tells what building comes to, building comes to that. -/
theorem Builds.outcome {result : Except Fault Definition}
    (builds : Builds library.settings schema result) :
    (Effect.outcome (Image.configuredScalar (imageRequest schema)) library).1 = result := by
  obtain ⟨extensions, caseSensitive, recalls, recallsToo, same⟩ := builds
  have first : Effect.outcome
      (Action.readSetting Image.extensionsKey Image.Rule.defaultExtensions schema) library =
        (.ok extensions, library) := by
    rw [Action.outcome_readSetting, recalls.read]
  have second : Effect.outcome
      (Action.readSetting Image.caseSensitiveKey (.bool false) schema) library =
        (.ok caseSensitive, library) := by
    rw [Action.outcome_readSetting, recallsToo.read]
  simp only [configuredScalar_imageRequest, Effect.outcome_bind, first, second,
    Action.outcome_ofExcept]
  exact same.symm

/-- What can be wrong with the settings of an image scalar is a fault of configuration, or an
extension is a number that is too long to be written. Its name is never at fault. -/
theorem category_of_buildScalar {description extensions caseSensitive : Value} {fault : Fault}
    (refused : Image.buildScalar (.ofText Image.standardName) description extensions caseSensitive =
      .error fault) : fault.category = .configuration ∨ fault = .longNumber none := by
  have named (rule : Image.Rule) : ∃ definition, Definition.ofDraft
      (Image.scalarDraft (.ofText Image.standardName) description rule) = .ok definition := ⟨_, rfl⟩
  cases built : Image.Rule.build extensions caseSensitive (.ofText Image.standardName) with
  | error other =>
    rw [Image.buildScalar, built] at refused
    cases refused
    by_cases legible : Image.Rule.Legible extensions
    · exact Or.inl (Image.Rule.build_eq_error legible rfl built).1
    · rw [Image.Rule.build_of_not_legible legible] at built
      exact Or.inr (Except.error.inj built).symm
  | ok rule =>
    obtain ⟨definition, drafted⟩ := named rule
    rw [Image.buildScalar, built] at refused
    exact nomatch drafted.symm.trans refused

/-- What a schema is refused for is a fault of configuration, or a number is too long. -/
theorem Refuses.category {registry : Registry} {settings : Settings} {schema : Value}
    {fault : Fault} (refuses : Refuses registry settings schema fault) :
    fault.category = .configuration ∨ fault = .longNumber none := by
  cases refuses with
  | builds _ builds =>
    obtain ⟨extensions, caseSensitive, -, -, refused⟩ := builds
    exact category_of_buildScalar refused.symm
  | lists _ _ long => exact Or.inr long

/-- How a check of some schemas ends: it accepts them all and reports each of them once, in order,
or it refuses one of them. -/
def Judges (before after : Library) (schemas : List Value) : Except Fault Unit → Prop
  | .ok _ =>
    (∀ schema ∈ schemas, Accepts after.registry after.settings schema) ∧
      ∃ reports, after.infos = before.infos ++ reports ∧
        List.Forall₂ (fun report schema => ∃ scalars, report = .enabled schema scalars) reports
          schemas
  | .error fault => ∃ schema ∈ schemas, Refuses after.registry after.settings schema fault

section
variable {before between after : Library} {fault : Fault} {done : Unit}

theorem Judges.reported (accepts : Accepts before.registry before.settings schema)
    (silent : before.infos = library.infos) (scalars : List String) :
    Judges library (before.reported (.enabled schema scalars)) [schema] (.ok ()) := by
  refine ⟨?_, [.enabled schema scalars], ?_, .cons ⟨scalars, rfl⟩ .nil⟩
  · intro other member
    rw [List.mem_singleton.mp member]
    exact accepts
  · rw [← silent]
    exact Library.infos_reported before (.enabled schema scalars)

/-- A schema that is refused stops the check before the rest. -/
theorem Judges.cons_refused (judges : Judges before after [schema] (.error fault))
    (rest : List Value) : Judges before after (schema :: rest) (.error fault) := by
  obtain ⟨refused, member, refuses⟩ := judges
  rw [List.mem_singleton.mp member] at refuses
  exact ⟨schema, List.mem_cons_self, refuses⟩

/-- A schema that is accepted is still accepted after the rest of the check. -/
theorem Judges.cons_accepted (judges : Judges before between [schema] (.ok done))
    (consult : between.ConsultTo after) {rest : List Value} {answer : Except Fault Unit}
    (others : Judges between after rest answer) : Judges before after (schema :: rest) answer := by
  obtain ⟨accepts, first, reported, inOrder⟩ := judges
  cases answer with
  | error fault =>
    obtain ⟨refused, member, refuses⟩ := others
    exact ⟨refused, List.mem_cons_of_mem schema member, refuses⟩
  | ok done =>
    obtain ⟨acceptsRest, reports, reportedRest, inOrderRest⟩ := others
    refine ⟨?_, first ++ reports, ?_, List.rel_append inOrder inOrderRest⟩
    · intro other member
      rcases List.mem_cons.mp member with rfl | later
      · rw [consult.registry]
        exact (accepts other (List.mem_singleton_self other)).readTo consult.readTo
      · exact acceptsRest other later
    · rw [reportedRest, reported, List.append_assoc]

end

theorem outcome_validateSchema (schema : Value) (library : Library) :
    Effect.outcome (validateSchema schema) library =
      match Effect.outcome (Registry.enabled schema) library with
      | (.ok enabled, listed) =>
        if (enabled.lookup Image.standardName).isSome = true then
          Effect.outcome (Image.configuredScalar (imageRequest schema) >>= fun _ =>
            Action.report (.enabled schema enabled.names)) listed
        else Effect.outcome (Action.report (.enabled schema enabled.names)) listed
      | (.error fault, listed) => (.error fault, listed) := by
  rw [validateSchema, Effect.outcome_bind]
  obtain ⟨fault | enabled, listed⟩ := Effect.outcome (Registry.enabled schema) library
  · rfl
  · by_cases there : (enabled.lookup Image.standardName).isSome = true
    · simp only [there, if_true]
      rfl
    · simp only [there, if_false, Bool.false_eq_true]

theorem validateSchema_judges_of_opens (opens : library.settings.Opens schema) :
    ∃ answer after, Effect.outcome (validateSchema schema) library = (answer, after) ∧
      library.ConsultTo after ∧ Judges library after [schema] answer := by
  obtain ⟨enabled, listed, list, toListed, silent, known, among⟩ := enabled_answers opens
  have outcome := outcome_validateSchema schema library
  by_cases there : Image.standardName ∈ enabled.names
  · have enables := among.mp there
    obtain ⟨result, built, build, toBuilt, stillSilent, builds⟩ :=
      configuredScalar_answers (opens.readTo toListed.readTo)
    have toAll : library.ConsultTo built := toListed.trans toBuilt
    have found : (enabled.lookup Image.standardName).isSome = true :=
      Table.lookup_isSome_iff.mpr there
    simp only [list, found, if_true, Effect.outcome_bind, build] at outcome
    cases result with
    | error fault =>
      refine ⟨.error fault, built, outcome, toAll, schema, List.mem_singleton_self schema,
        .builds ?_ builds⟩
      rw [toAll.registry]
      exact enables.readTo toBuilt.readTo
    | ok definition =>
      -- Building reads on, and what listing left in the memory is still there.
      have accepts : Accepts built.registry built.settings schema := by
        refine ⟨Or.inl (opens.writes.readTo toAll.readTo), fun registered => ?_,
          fun _ => ⟨definition, builds⟩⟩
        obtain ⟨setting, recalls⟩ := known (toAll.registry ▸ registered)
        exact ⟨setting, recalls.readTo toBuilt.readTo⟩
      exact ⟨.ok (), _, outcome, toAll.tail (.reported _),
        .reported accepts (stillSilent.trans silent) enabled.names⟩
  · -- Nothing is built, and the setting that disables the image scalar is remembered.
    have missing : (enabled.lookup Image.standardName).isSome = false := by
      rw [← Bool.not_eq_true, Table.lookup_isSome_iff]
      exact there
    simp only [list, missing, Bool.false_eq_true, if_false] at outcome
    have accepts : Accepts listed.registry listed.settings schema := by
      rw [toListed.registry]
      exact ⟨Or.inl (opens.writes.readTo toListed.readTo), known,
        fun enables => absurd (among.mpr enables) there⟩
    exact ⟨.ok (), _, outcome, toListed.tail (.reported _), .reported accepts silent enabled.names⟩

/-- A schema is refused by no layer, or it cannot be written: then the check goes on if there is
nothing to list. -/
theorem validateSchema_judges (opens : library.settings.Writes schema →
      library.settings.Opens schema) :
    ∃ answer after, Effect.outcome (validateSchema schema) library = (answer, after) ∧
      library.ConsultTo after ∧ Judges library after [schema] answer := by
  by_cases writes : library.settings.Writes schema
  · exact validateSchema_judges_of_opens (opens writes)
  have outcome := outcome_validateSchema schema library
  rcases enabled_of_not_writes writes with ⟨empty, list⟩ | ⟨some, list⟩
  · rw [list] at outcome
    have accepts : Accepts library.registry library.settings schema := by
      rw [empty]
      exact ⟨Or.inr rfl, nofun, fun enables => nomatch enables.1⟩
    exact ⟨.ok (), _, outcome, .single (.reported _), .reported accepts rfl []⟩
  · rw [list] at outcome
    exact ⟨_, library, outcome, .refl, schema, List.mem_singleton_self schema,
      .lists some writes rfl⟩

/-- By induction on the schemas: what the check finds of the first one stays so in the rest. -/
theorem validateEach_judges (schemas : List Value)
    (opens : ∀ schema ∈ schemas, library.settings.Writes schema → library.settings.Opens schema) :
    ∃ answer after, Effect.outcome (validateEach schemas) library = (answer, after) ∧
      library.ConsultTo after ∧ Judges library after schemas answer := by
  induction schemas generalizing library with
  | nil =>
    refine ⟨.ok (), library, rfl, .refl, ?_, [], (List.append_nil _).symm, .nil⟩
    exact fun _ member => nomatch member
  | cons schema rest ih =>
    obtain ⟨answer, between, first, toBetween, judges⟩ :=
      validateSchema_judges (opens schema List.mem_cons_self)
    cases answer with
    | error fault =>
      refine ⟨.error fault, between, ?_, toBetween, judges.cons_refused rest⟩
      simp only [validateEach, Effect.outcome_bind, first]
    | ok done =>
      have opensRest : ∀ other ∈ rest,
          between.settings.Writes other → between.settings.Opens other := by
        intro other member writes
        have before := writes_of_readTo writes toBetween.readTo
        exact (opens other (List.mem_cons_of_mem schema member) before).readTo toBetween.readTo
      obtain ⟨answer, after, others, toAfter, judgesRest⟩ := ih opensRest
      refine ⟨answer, after, ?_, toBetween.trans toAfter, judges.cons_accepted toAfter judgesRest⟩
      simp only [validateEach, Effect.outcome_bind, first, others]

end

/-- The schemas that the host has settings for. -/
def schemaNames (host : Host) : List Value :=
  match host.bySchema with
  | some (.record _ entries) => entries.map Prod.fst
  | _ => []

/-- What the host says for single schemas is a record, if it says anything. -/
def ListsSchemas (host : Host) : Prop :=
  ∀ value, host.bySchema = some value → value.truthy = true → ∃ brand entries,
    value = .record brand entries

/-- The schemas that the host has settings for can be looked up, as is the way of keys. -/
def NamesKeys (host : Host) : Prop := ∀ schema ∈ schemaNames host, schema.isKey = true

section
variable {settings after : Settings} {host : Host}

theorem schemaEntries_of_lists (lists : ListsSchemas host) :
    ∃ entries, host.schemaEntries = .ok entries := by
  cases given : host.bySchema with
  | none => exact ⟨[], by simp only [Host.schemaEntries, given]⟩
  | some value =>
    by_cases truthy : value.truthy = true
    · obtain ⟨brand, entries, rfl⟩ := lists value given truthy
      exact ⟨entries, by simp only [Host.schemaEntries, given, truthy, if_true, Value.record?]⟩
    · exact ⟨[], by simp only [Host.schemaEntries, given, truthy, Bool.false_eq_true, if_false]⟩

/-- A record stays, and what counts as false has nothing in it that could pass. -/
theorem isPassing_of_lists (lists : ListsSchemas host) {value : Value}
    (given : host.bySchema = some value) : value.isPassing = false := by
  by_cases truthy : value.truthy = true
  · obtain ⟨brand, entries, rfl⟩ := lists value given truthy
    rfl
  · cases value with
    | stream typeName isPassing items =>
      simp only [Value.truthy, Bool.not_eq_true, Bool.or_eq_false_iff] at truthy
      exact truthy.1
    | _ => rfl

theorem schemas_of_lists (configured : settings.layers.host = some host)
    (lists : ListsSchemas host) : schemas settings = .ok (.null :: schemaNames host) := by
  have same : settings.schemas = host.bySchema := by rw [Settings.schemas, configured]; rfl
  cases given : host.bySchema with
  | none => simp [schemas, same, schemaNames, given]
  | some value =>
    by_cases truthy : value.truthy = true
    · obtain ⟨brand, entries, rfl⟩ := lists value given truthy
      simp [schemas, same, schemaNames, given, truthy, Value.parts?, Value.isPassing]
    · -- Nothing is read from a value that counts as false, and a record that does so is empty.
      have unnamed : schemaNames host = [] := by
        unfold schemaNames
        rw [given]
        split
        next brand entries record =>
          cases record
          simpa [Value.truthy] using truthy
        · rfl
      simp [schemas, same, given, truthy, unnamed]

theorem useUp_of_lists (configured : settings.layers.host = some host)
    (lists : ListsSchemas host) : settings.useUp = settings := by
  refine useUp_of_lasting ?_
  rw [Settings.passes, Settings.schemas, configured]
  cases given : host.bySchema with
  | none => simp [given]
  | some value => simp [given, isPassing_of_lists lists given]

theorem opens_of_lists (configured : settings.layers.host = some host) (lists : ListsSchemas host)
    (keys : NamesKeys host) (own : settings.reader.schema.isKey = true)
    (read : settings.ReadTo after) :
    ∀ schema ∈ Value.null :: schemaNames host, after.Writes schema → after.Opens schema := by
  intro schema member writes
  refine (opens_of_isKey (writes_of_readTo writes read) ?_ own fun other same => ?_).readTo read
  · rcases List.mem_cons.mp member with rfl | named
    · rfl
    · exact keys schema named
  · rw [configured] at same
    exact Option.some.inj same ▸ schemaEntries_of_lists lists

end

/-- Where there is a host, nothing is done to see to it. -/
theorem outcome_validate_of_levels {library : Library} (here : library.settings.levels ≠ []) :
    Effect.outcome validate library = Effect.outcome (validateListed (schemas library.settings))
      (library.changeSettings Settings.useUp) := by
  rw [outcome_validate, Library.changeSettings, Settings.ensureHost_of_levels here]
  rfl

/-- Where the host is there, the check asks for nothing that could be refused but for what cannot be
written, so it ends in a judgement on the schemas. -/
theorem validate_judges {library : Library} {host : Host}
    (configured : library.settings.layers.host = some host) (lists : ListsSchemas host)
    (keys : NamesKeys host) (own : library.settings.reader.schema.isKey = true) :
    ∃ answer after, Effect.outcome validate library = (answer, after) ∧
      library.ConsultTo after ∧ Judges library after (.null :: schemaNames host) answer := by
  obtain ⟨answer, after, each, consult, judges⟩ :=
    validateEach_judges _ (opens_of_lists configured lists keys own .refl)
  have lasting : library.changeSettings Settings.useUp = library := by
    rw [Library.changeSettings, useUp_of_lists configured lists]
  refine ⟨answer, after, ?_, consult, judges⟩
  rw [outcome_validate_of_levels (levels_ne_nil_of_host configured), lasting,
    schemas_of_lists configured lists]
  exact each

end Startup

end CustomScalars
