import CustomScalars.Proofs.Settings.Reading
import CustomScalars.Session.Step

/-!
# What a step does to the settings

A session has more than thirty kinds of steps, and only ten of them do anything to the settings
but read them. `Moves` says what each kind does, faults included, and `step_moves` that no step
does anything else. Whatever is to hold of the settings throughout a session follows from it. Most
of the others do not change the registry either, nor make definitions: they consult the library, and
`step_consultTo` says so of all of them at once.
-/
namespace CustomScalars

namespace Session

def settings (session : Session) : Settings := session.library.settings

/-- The session with nothing reported, as every step finds it. -/
def quiet (session : Session) : Session :=
  { session with library := { session.library with events := [] } }

/-- The session after some steps. -/
def after : Session → List Step → Session
  | session, [] => session
  | session, first :: rest => after (session.step first).2.2 rest

/-- The check at startup goes through the schemas that the host names and then reads, on a level of
its own where a debug mode is given. -/
def StartsUp (before after : Settings) : Option Value → Prop
  | none => before.ensureHost.useUp.ReadTo after
  | some value =>
    ∃ during, (before.addLevel none none (some value)).useUp.ReadTo during ∧
      after = Settings.ensureHost { during with levels := before.levels }

/-- How a step takes settings to those after it. -/
def Moves (before after : Settings) : Step → Prop
  | .enter shared bySchema => after = before.enter shared bySchema
  | .leave => after = before.leave
  | .assign setting value => after = before.assign setting value
  | .remove setting => after = (before.remove setting).2
  | .announce setting => after = before.announce setting
  | .unconfigure => after = before.unconfigure
  | .reconfigure => after = before.reconfigure
  | .clearMemory none => after = before.clear
  | .configure schema _ => after = before ∨ ∃ sections, before.configure schema sections = .ok after
  | .startUp _ debug => StartsUp before after debug
  | _ => before.ReadTo after

/-- What the session does not keep by itself is consulted, and what was made in it stays. -/
structure ConsultTo (before after : Session) : Prop where
  library : before.library.ConsultTo after.library
  definitions : after.definitions = before.definitions
  nextSerial : after.nextSerial = before.nextSerial

theorem ConsultTo.refl (session : Session) : session.ConsultTo session := ⟨.refl, rfl, rfl⟩

theorem ConsultTo.readTo {before after : Session} (consult : before.ConsultTo after) :
    before.settings.ReadTo after.settings :=
  consult.library.readTo

namespace Act

variable {α : Type}

/-- The act makes no definition and does nothing to the library but consult it. -/
abbrev Consults (act : Act α) : Prop := Effect.Follows Session.ConsultTo act

theorem Consults.onlyReads {act : Act α} (consults : Consults act) : OnlyReads settings act :=
  consults.weaken ConsultTo.refl fun _ _ _ read consult => read.trans consult.readTo

theorem ofExcept_consults (result : Except Fault α) : Consults (ofExcept result) := by
  cases result with
  | ok value => exact .pure value
  | error fault => exact .throw fault

@[simp] theorem outcome_ofAction (action : Action α) (session : Session) :
    Effect.outcome (ofAction action) session =
      ((Effect.outcome action session.library).1,
        { session with library := (Effect.outcome action session.library).2 }) := rfl

theorem ofAction_consults {action : Action α} (consults : Action.Consults action) :
    Consults (ofAction action) :=
  fun earlier session consult =>
    ⟨consults earlier.library session.library consult.library, consult.definitions,
      consult.nextSerial⟩

theorem ofAction_onlyReads {action : Action α} (reads : OnlyReads Library.settings action) :
    OnlyReads settings (ofAction action) :=
  fun earlier session read => reads earlier.library session.library read

/-- Schemas and readers are no part of what an act has to leave alone. -/
theorem modify_consults {change : Session → Session}
    (same : ∀ session, (change session).library = session.library ∧
      (change session).definitions = session.definitions ∧
      (change session).nextSerial = session.nextSerial) :
    Consults (modify change : Act PUnit) :=
  .modify fun _ session consult => by
    obtain ⟨library, definitions, nextSerial⟩ := same session
    exact ⟨library ▸ consult.library, definitions.trans consult.definitions,
      nextSerial.trans consult.nextSerial⟩

theorem named_consults (table : Session → Table α) (name : String) :
    Consults (named table name) := by
  refine .bind .get fun session => ?_
  split
  · exact .pure _
  · exact .throw _

theorem mapM_named_consults (table : Session → Table α) (names : List String) :
    Consults (names.mapM (named table)) := by
  induction names with
  | nil => exact .pure []
  | cons name rest ih =>
    rw [List.mapM_cons]
    exact .bind (named_consults table name) fun _ => .bind ih fun _ => .pure _

end Act

theorem issue_onlyReads (handle : String) (definition : Definition) :
    OnlyReads settings (issue handle definition) :=
  .bind (.modify fun _ _ read => read) fun _ => .pure _

theorem listScalars_consults (registry : Registry) : Act.Consults (listScalars registry) :=
  .bind .get fun _ => .pure _

theorem register_onlyReads (handle : String) (replacing : Value) :
    OnlyReads settings (register handle replacing) :=
  .bind (Act.named_consults _ _).onlyReads fun issued =>
    .bind (Act.ofAction_onlyReads (Registry.register_onlyReads issued _)) fun _ =>
      .bind .get fun _ => (listScalars_consults _).onlyReads

theorem unregister_onlyReads (name : Value) : OnlyReads settings (unregister name) :=
  .bind (Act.ofAction_onlyReads (Registry.unregister_onlyReads name)) fun _ =>
    .bind .get fun _ => .pure _

theorem findByName_consults (name : Value) : Act.Consults (findByName name) :=
  .bind (Act.ofAction_consults (Registry.findByName_consults name)) fun _ =>
    .bind .get fun _ => .pure _

theorem makeReader_consults (handle : String) (schema : Value) :
    Act.Consults (makeReader handle schema) :=
  .bind (Act.modify_consults fun _ => ⟨rfl, rfl, rfl⟩) fun _ => .pure _

theorem clearMemory_consults (handle : String) : Act.Consults (clearMemory (some handle)) :=
  .bind (Act.named_consults _ _) fun _ =>
    .bind (Act.modify_consults fun _ => ⟨rfl, rfl, rfl⟩) fun _ => .pure _

theorem makeSchema_consults (handle : String) (declarations : List Declaration) :
    Act.Consults (makeSchema handle declarations) :=
  .bind (Act.ofExcept_consults _) fun _ =>
    .bind (Act.modify_consults fun _ => ⟨rfl, rfl, rfl⟩) fun _ => .bind .get fun _ => .pure _

theorem bind_consults (handle : String) (handles : List String) :
    Act.Consults (bind handle handles) := by
  refine .bind (Act.named_consults _ _) fun schema =>
    .bind (Act.mapM_named_consults _ _) fun definitions =>
      .bind (Act.ofAction_consults (schema.bindScalars_consults definitions)) fun bound =>
        .bind (Act.modify_consults fun _ => ⟨rfl, rfl, rfl⟩) fun _ => ?_
  split
  · exact .throw _
  · exact .bind .get fun _ => .pure _

theorem callType_consults (handle name : String) (operation : Definition.Operation) :
    Act.Consults (callType handle name operation) := by
  refine .bind (Act.named_consults _ _) fun schema => ?_
  split
  · exact .bind (Act.ofExcept_consults _) fun _ => .pure _
  · exact .throw _

@[simp] theorem Act.outcome_ofExcept {α : Type} (result : Except Fault α) (session : Session) :
    Effect.outcome (Act.ofExcept result) session = (result, session) := by
  cases result <;> rfl

@[simp] theorem Act.outcome_changeSettings (change : Settings → Settings) (session : Session) :
    Effect.outcome (Act.changeSettings change) session =
      (.ok .nothing, { session with library := session.library.changeSettings change }) := rfl

/-- An answer that is put in the place of another one does nothing more to the session. -/
theorem Act.outcome_answering {α : Type} (act : Act α) (answer : α → Answer) (session : Session) :
    (Effect.outcome (do return answer (← act)) session).2 = (Effect.outcome act session).2 := by
  rw [Effect.outcome_bind]
  generalize Effect.outcome act session = between
  obtain ⟨fault | value, after⟩ := between <;> rfl

/-- A read from a reader of the session's own does not even touch the shared one. -/
theorem read_consults (key : String) (fallback schema : Value) (handle : Option String) :
    Act.Consults (read key fallback schema handle) := by
  cases handle with
  | none =>
    exact .bind (Act.ofAction_consults (Action.readSetting_consults key fallback schema))
      fun _ => .pure _
  | some handle =>
    refine .bind (Act.named_consults _ _) fun reader => fun earlier session consult => ?_
    simp only [Effect.outcome_bind _ _ session, Effect.outcome_get, Effect.outcome_set]
    rw [Act.outcome_answering, Act.outcome_ofExcept]
    exact ⟨consult.library, consult.definitions, consult.nextSerial⟩

theorem remove_moves (setting : Settings.HostSetting) (session : Session) :
    (Effect.outcome (remove setting) session).2.settings =
      (session.settings.remove setting).2 := by
  -- The settings are replaced before the fault of an absent setting is raised.
  simp only [remove, Effect.outcome_bind _ _ session, Effect.outcome_get,
    Act.outcome_changeSettings]
  rw [Act.outcome_answering, Act.outcome_ofExcept]
  rfl

/-- Both faults, in the sections and in the schema, come before anything is written. -/
theorem configure_cases (schema overrides : Value) (session : Session) :
    (Effect.outcome (configure schema overrides) session).2.settings = session.settings ∨
      ∃ entries, sections overrides = .ok entries ∧ session.settings.configure schema entries =
        .ok (Effect.outcome (configure schema overrides) session).2.settings := by
  simp only [configure, Effect.outcome_bind, Effect.outcome_get, Act.outcome_changeSettings,
    Act.outcome_ofExcept]
  cases sections overrides with
  | error fault => exact Or.inl rfl
  | ok entries =>
    cases written : session.library.settings.configure schema entries with
    | error fault => exact Or.inl (by simp only [written])
    | ok changed =>
      refine Or.inr ⟨entries, rfl, ?_⟩
      simp only [written]
      exact written

theorem configure_moves (schema overrides : Value) (session : Session) :
    Moves session.settings (Effect.outcome (configure schema overrides) session).2.settings
      (.configure schema overrides) := by
  rcases configure_cases schema overrides session with same | ⟨entries, -, written⟩
  · exact Or.inl same
  · exact Or.inr ⟨entries, written⟩

theorem startUp_moves (validateOnly : Bool) (debug : Option Value) (session : Session) :
    StartsUp session.settings
      (Effect.outcome (startUp validateOnly debug) session).2.settings debug := by
  let action := if validateOnly then Startup.validate else Startup.ready
  -- Validating alone and starting up answer differently, but what they read is the same.
  have read : ∀ library : Library,
      library.settings.ensureHost.useUp.ReadTo (Effect.outcome action library).2.settings := by
    intro library
    cases validateOnly with
    | true => exact (Startup.validate_consultTo library).readTo
    | false => exact (Startup.ready_consultTo library).readTo
  have same := Act.outcome_answering (Act.ofAction (Startup.underDebug debug action))
    (fun _ => .nothing) session
  have moved : StartsUp session.settings
      (Effect.outcome (Act.ofAction (Startup.underDebug debug action)) session).2.settings
        debug := by
    cases debug with
    | none => exact read session.library
    | some value =>
      exact ⟨_, read (session.library.changeSettings fun settings =>
        settings.addLevel none none (some value)), rfl⟩
  rwa [← same] at moved

/-- The steps that do nothing to the library but consult it, and make no definition. -/
def Step.isConsulting : Step → Bool
  | .refused _ | .describe _ | .mutate _ _ | .toEngineType _ | .call _ _ _ | .registerValue _
  | .registry | .findByName _ | .enabled _ | .runtime | .makeReader _ _ | .clearMemory (some _)
  | .read _ _ _ _ | .makeSchema _ _ | .bind _ _ | .types _ | .callType _ _ _ => true
  | _ => false

theorem act_consults {step : Step} (consulting : step.isConsulting = true) :
    Act.Consults (act step) := by
  cases step with
  | refused fault => exact .throw fault
  | describe handle => exact .bind (Act.named_consults _ _) fun _ => .pure _
  | mutate handle field => exact .bind (Act.named_consults _ _) fun _ => .throw _
  | toEngineType handle =>
    exact .bind (Act.named_consults _ _) fun _ => .bind .get fun _ => .pure _
  | call handle surface operation =>
    exact .bind (Act.named_consults _ _) fun _ => .bind (Act.ofExcept_consults _) fun _ => .pure _
  | registerValue value => exact .throw _
  | registry => exact .bind .get fun _ => listScalars_consults _
  | findByName name => exact findByName_consults name
  | enabled schema =>
    exact .bind (Act.ofAction_consults (Registry.enabled_consults schema)) fun _ =>
      listScalars_consults _
  | runtime => exact .bind .get fun _ => .pure _
  | makeReader handle schema => exact makeReader_consults handle schema
  | clearMemory reader =>
    cases reader with
    | none => cases consulting
    | some handle => exact clearMemory_consults handle
  | read key fallback schema reader => exact read_consults key fallback schema reader
  | makeSchema handle declarations => exact makeSchema_consults handle declarations
  | bind schema handles => exact bind_consults schema handles
  | types schema => exact .bind (Act.named_consults _ _) fun _ => .bind .get fun _ => .pure _
  | callType schema type operation => exact callType_consults schema type operation
  | _ => cases consulting

/-- A step forgets the events of the one before, which are no part of the settings. -/
theorem step_consultTo {step : Step} (consulting : step.isConsulting = true) (session : Session) :
    session.quiet.ConsultTo (session.step step).2.2 :=
  (act_consults consulting).related (ConsultTo.refl session.quiet)

theorem act_reads (step : Step) (reads : OnlyReads settings (act step)) (session : Session) :
    session.settings.ReadTo (session.step step).2.2.settings :=
  reads session.quiet session.quiet .refl

theorem moves_of_readTo {step : Step} (consulting : step.isConsulting = true)
    {before after : Settings} (read : before.ReadTo after) : Moves before after step := by
  cases step with
  | enter | leave | assign | remove | announce | unconfigure | reconfigure | configure | startUp =>
    cases consulting
  | clearMemory reader =>
    cases reader with
    | none => cases consulting
    | some handle => exact read
  | _ => exact read

theorem step_moves (session : Session) (step : Step) :
    Moves session.settings (session.step step).2.2.settings step := by
  by_cases consulting : step.isConsulting = true
  · exact moves_of_readTo consulting (step_consultTo consulting session).readTo
  cases step with
  | define handle draft =>
    exact act_reads (.define handle draft)
      (.bind (Act.ofExcept_consults _).onlyReads (issue_onlyReads handle)) session
  | buildImage handle request =>
    exact act_reads (.buildImage handle request)
      (.bind (Act.ofAction_consults (Image.configuredScalar_consults request)).onlyReads
        (issue_onlyReads handle)) session
  | register handle replacing =>
    exact act_reads (.register handle replacing) (register_onlyReads handle replacing) session
  | unregister name => exact act_reads (.unregister name) (unregister_onlyReads name) session
  | enter shared bySchema => rfl
  | leave => rfl
  | assign setting value => rfl
  | remove setting => exact remove_moves setting _
  | announce setting => rfl
  | unconfigure => rfl
  | reconfigure => rfl
  | configure schema overrides => exact configure_moves schema overrides _
  | clearMemory reader =>
    cases reader with
    | none => rfl
    | some handle => exact absurd rfl consulting
  | startUp validateOnly debug => exact startUp_moves validateOnly debug session.quiet
  | _ => exact absurd rfl consulting

end Session

end CustomScalars
