import CustomScalars.Proofs.Effect
import CustomScalars.Schema
import CustomScalars.Startup
import Mathlib.Logic.Relation

/-!
# Actions that only consult the library

Most of what the library does with its settings is to read them, and a read changes nothing but the
memory of the shared reader. `ReadTo` relates settings to those after any number of reads. Most
actions do no more to the library than that and to report what they did: listing, binding and
building scalars, and the check at startup once there is a host. They take the library no further
than `ConsultTo`. Registering and taking out change the registry, but not the settings.
-/
namespace CustomScalars

namespace Settings

/-- One lookup through the shared reader. -/
def Looked (before after : Settings) : Prop :=
  ∃ key fallback schema, after = (before.read key fallback schema).2

abbrev ReadTo : Settings → Settings → Prop := Relation.ReflTransGen Looked

theorem readTo_read (settings : Settings) (key : String) (fallback schema : Value) :
    settings.ReadTo (settings.read key fallback schema).2 :=
  .single ⟨key, fallback, schema, rfl⟩

/-- Reads leave everything but the reader as it was. -/
theorem ReadTo.frame {before after : Settings} (read : before.ReadTo after) :
    after = { before with reader := after.reader } := by
  induction read with
  | refl => rfl
  | tail _ looked ih =>
    obtain ⟨key, fallback, schema, rfl⟩ := looked
    rw [ih]
    rfl

theorem ReadTo.layers {before after : Settings} (read : before.ReadTo after) :
    after.layers = before.layers := by
  rw [read.frame]
  rfl

/-- A reader that looks settings up keeps the schema that it is for. -/
theorem ReadTo.schema {before after : Settings} (read : before.ReadTo after) :
    after.reader.schema = before.reader.schema := by
  induction read with
  | refl => rfl
  | tail _ looked ih =>
    obtain ⟨key, fallback, schema, rfl⟩ := looked
    rw [← ih]
    simp only [Settings.read, Reader.read]
    split
    · rfl
    · split <;> rfl

end Settings

namespace Library

/-- One lookup through the shared reader, or a report. -/
inductive Consulted (before : Library) : Library → Prop where
  | looked (key : String) (fallback schema : Value) :
      Consulted before { before with settings := (before.settings.read key fallback schema).2 }
  | reported (events : List Event) :
      Consulted before { before with events := before.events ++ events }

abbrev ConsultTo : Library → Library → Prop := Relation.ReflTransGen Consulted

section
variable {before after : Library}

theorem ConsultTo.readTo (consult : before.ConsultTo after) :
    before.settings.ReadTo after.settings := by
  induction consult with
  | refl => exact .refl
  | tail _ consulted ih =>
    cases consulted with
    | looked key fallback schema => exact ih.trans (Settings.readTo_read _ key fallback schema)
    | reported events => exact ih

theorem ConsultTo.registry (consult : before.ConsultTo after) :
    after.registry = before.registry := by
  induction consult with
  | refl => rfl
  | tail _ consulted ih => cases consulted <;> exact ih

end

/-- A relation that lasts through lookups, and through reports of anything but faults. -/
structure Mild (relation : Library → Library → Prop) : Prop where
  looked : ∀ earlier library key fallback schema, relation earlier library →
    relation earlier { library with settings := (library.settings.read key fallback schema).2 }
  reported : ∀ earlier library event, event.level ≠ .error → relation earlier library →
    relation earlier { library with events := library.events ++ [event] }

theorem mild_consultTo : Mild ConsultTo where
  looked := fun _ _ key fallback schema consult => consult.tail (.looked key fallback schema)
  reported := fun _ _ event _ consult => consult.tail (.reported [event])

end Library

/-- The effect does nothing to the settings in its state but read them. -/
abbrev OnlyReads {σ α : Type} (view : σ → Settings) (effect : Effect σ α) : Prop :=
  Effect.Follows (fun earlier state => (view earlier).ReadTo (view state)) effect

namespace Action

/-- The action does nothing to the library but consult it. -/
abbrev Consults {α : Type} (action : Action α) : Prop := Effect.Follows Library.ConsultTo action

theorem Consults.onlyReads {α : Type} {action : Action α} (consults : Consults action) :
    OnlyReads Library.settings action :=
  consults.weaken (fun _ => .refl) fun _ _ _ read consult => read.trans consult.readTo

@[simp] theorem outcome_ofExcept {α : Type} (result : Except Fault α) (library : Library) :
    Effect.outcome (ofExcept result) library = (result, library) := by
  cases result <;> rfl

theorem ofExcept_follows {α : Type} {relation : Library → Library → Prop}
    (result : Except Fault α) : Effect.Follows relation (ofExcept result) := by
  cases result with
  | ok value => exact .pure value
  | error fault => exact .throw fault

theorem report_consults (event : Event) : Consults (report event) :=
  .modify fun _ _ consult => consult.tail (.reported [event])

theorem outcome_readSetting (key : String) (fallback schema : Value) (library : Library) :
    Effect.outcome (readSetting key fallback schema) library =
      ((library.settings.read key fallback schema).1,
        { library with settings := (library.settings.read key fallback schema).2 }) := by
  simp only [readSetting, Effect.outcome_bind, Effect.outcome_get, Effect.outcome_set,
    outcome_ofExcept]

section
variable {relation : Library → Library → Prop} (mild : Library.Mild relation)
include mild

theorem report_follows {event : Event} (noFault : event.level ≠ .error) :
    Effect.Follows relation (report event) :=
  .modify fun earlier library => mild.reported earlier library event noFault

theorem readSetting_follows (key : String) (fallback schema : Value) :
    Effect.Follows relation (readSetting key fallback schema) := by
  intro earlier library related
  rw [outcome_readSetting]
  exact mild.looked earlier library key fallback schema related

theorem orSetting_follows (given : Value) (key : String) (fallback schema : Value) :
    Effect.Follows relation (orSetting given key fallback schema) := by
  unfold orSetting
  split
  · exact readSetting_follows mild key fallback schema
  · exact .pure given

end

theorem readSetting_consults (key : String) (fallback schema : Value) :
    Consults (readSetting key fallback schema) :=
  readSetting_follows Library.mild_consultTo key fallback schema

theorem modify_onlyReads {change : Library → Library}
    (same : ∀ library, (change library).settings = library.settings) :
    OnlyReads Library.settings (modify change : Action Unit) :=
  .modify fun _ library read => by rwa [same]

theorem report_onlyReads (event : Event) : OnlyReads Library.settings (report event) :=
  (report_consults event).onlyReads

end Action

namespace Registry

theorem register_onlyReads (issued : Issued) (replacing : Bool) :
    OnlyReads Library.settings (register issued replacing) := by
  unfold register
  refine .bind .get fun library => ?_
  split
  · split
    · exact .bind (Action.report_onlyReads _) fun _ =>
        .bind (Action.modify_onlyReads fun _ => rfl) fun _ => Action.report_onlyReads _
    · exact .bind (.throw _) fun _ =>
        .bind (Action.modify_onlyReads fun _ => rfl) fun _ => Action.report_onlyReads _
  · exact .bind (Action.modify_onlyReads fun _ => rfl) fun _ => Action.report_onlyReads _

theorem findByName_consults (name : Value) : Action.Consults (findByName name) :=
  .bind .get fun _ => Action.ofExcept_follows _

theorem unregister_onlyReads (name : Value) : OnlyReads Library.settings (unregister name) := by
  intro earlier library read
  simp only [unregister, Effect.outcome_bind, Effect.outcome_get]
  -- A registry without entries is not asked, and a name that cannot be looked up is a fault.
  split
  · exact read
  · simp only [Effect.outcome_bind, Action.outcome_ofExcept]
    rcases name.keyName? with fault | _ | key
    · exact read
    · exact read
    · exact read

section
variable {relation : Library → Library → Prop} (mild : Library.Mild relation)
include mild

theorem enabledAmong_follows (schema : Value) (registry : Registry) :
    Effect.Follows relation (enabledAmong schema registry) := by
  induction registry with
  | nil => exact .pure []
  | cons entry rest ih =>
    obtain ⟨scalar, issued⟩ := entry
    refine .bind (Action.readSetting_follows mild _ _ _) fun setting => ?_
    split
    · exact .bind ih fun others => .pure _
    · exact .bind (Action.report_follows mild nofun) fun _ => ih

theorem enabled_follows (schema : Value) : Effect.Follows relation (enabled schema) :=
  .bind .get fun library => enabledAmong_follows mild schema library.registry

end

theorem enabled_consults (schema : Value) : Action.Consults (enabled schema) :=
  enabled_follows Library.mild_consultTo schema

end Registry

namespace Image

theorem configuredScalar_follows {relation : Library → Library → Prop}
    (mild : Library.Mild relation) (request : Request) :
    Effect.Follows relation (configuredScalar request) :=
  .bind (Action.orSetting_follows mild _ _ _ _) fun _ =>
    .bind (Action.orSetting_follows mild _ _ _ _) fun _ => Action.ofExcept_follows _

theorem configuredScalar_consults (request : Request) :
    Action.Consults (configuredScalar request) :=
  configuredScalar_follows Library.mild_consultTo request

end Image

theorem Schema.bindScalars_consults (schema : Schema) (definitions : List Issued) :
    Action.Consults (schema.bindScalars definitions) :=
  .bind (.modify fun _ _ consult => consult.tail (.reported _)) fun _ => .pure _

namespace Startup

section
variable {relation : Library → Library → Prop} (mild : Library.Mild relation)
include mild

theorem validateSchema_follows (schema : Value) :
    Effect.Follows relation (validateSchema schema) := by
  refine .bind (Registry.enabled_follows mild schema) fun enabled => ?_
  split
  · exact .bind (Image.configuredScalar_follows mild _) fun _ => Action.report_follows mild nofun
  · exact Action.report_follows mild nofun

theorem validateEach_follows (schemas : List Value) :
    Effect.Follows relation (validateEach schemas) := by
  induction schemas with
  | nil => exact .pure ()
  | cons schema rest ih => exact .bind (validateSchema_follows mild schema) fun _ => ih

end

theorem handle_consults (fault : Fault) : Action.Consults (handle fault) := by
  refine .bind (Action.report_consults _) fun _ => .bind .get fun library => ?_
  split
  · exact .throw fault
  · exact .pure ()

/-- What the check does once there is a host and the schemas are listed. -/
def validateListed (names : Except Fault (List Value)) : Action Unit := do
  validateEach (← Action.ofExcept names)

/-- What cannot be listed is not gone through either. -/
theorem useUp_of_schemas_eq_error {settings : Settings} {fault : Fault}
    (unlisted : schemas settings = .error fault) : settings.useUp = settings := by
  refine Settings.useUp_of_lasting ?_
  rw [schemas] at unlisted
  split at unlisted
  · cases unlisted
  next value given =>
    split at unlisted
    · split at unlisted
      · cases unlisted
      · split at unlisted
        · cases unlisted
        next unparted =>
          have lasting : value.isPassing = false := by
            cases value with
            | stream typeName isPassing items => cases unparted
            | _ => rfl
          simp [Settings.passes, given, lasting]
    · cases unlisted

theorem outcome_validate (library : Library) : Effect.outcome validate library =
    Effect.outcome (validateListed (schemas library.settings.ensureHost))
      (library.changeSettings fun settings => settings.ensureHost.useUp) := by
  simp only [validate, validateListed, Action.ensureHost, Effect.outcome_bind, Effect.outcome_get,
    Effect.outcome_modify, Action.outcome_ofExcept, Library.changeSettings]
  cases listed : schemas library.settings.ensureHost with
  | error fault => simp only [useUp_of_schemas_eq_error listed]
  | ok names => rfl

theorem validateListed_follows {relation : Library → Library → Prop}
    (mild : Library.Mild relation) (names : Except Fault (List Value)) :
    Effect.Follows relation (validateListed names) :=
  .bind (Action.ofExcept_follows _) (validateEach_follows mild)

/-- The check at startup sees to it that there is a host, goes through the schemas that it names,
and from then on consults. -/
theorem validate_consultTo (library : Library) :
    (library.changeSettings fun settings => settings.ensureHost.useUp).ConsultTo
      (Effect.outcome validate library).2 := by
  rw [outcome_validate]
  exact (validateListed_follows Library.mild_consultTo _).related .refl

theorem ready_consultTo (library : Library) :
    (library.changeSettings fun settings => settings.ensureHost.useUp).ConsultTo
      (Effect.outcome ready library).2 := by
  have consult := validate_consultTo library
  rw [ready, Effect.outcome_tryCatch]
  generalize Effect.outcome validate library = between at consult ⊢
  obtain ⟨fault | done, after⟩ := between
  · exact handle_consults fault _ after consult
  · exact consult

end Startup

end CustomScalars
