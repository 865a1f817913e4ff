import CustomScalars.Proofs.Session.Moves
import CustomScalars.Proofs.Startup

/-!
# The check at startup in a session

After the check at startup a session that goes on listing and building scalars finds what the check
found. The reader that everyone shares is for no schema of its own in any session, so the check
asks for nothing that the layers refuse, as long as the host's settings for schemas are a record
and no schema is a number that is too long to be written.
-/
namespace CustomScalars

namespace Session

open Settings

section
variable {before after : Settings}

theorem StartsUp.schema {debug : Option Value} (started : StartsUp before after debug) :
    after.reader.schema = before.reader.schema := by
  cases debug with
  | none =>
    rw [StartsUp, useUp_eq] at started
    exact started.schema.trans (congrArg Reader.schema (reader_ensureHost before))
  | some value =>
    obtain ⟨during, read, rfl⟩ := started
    rw [useUp_eq] at read
    rw [reader_ensureHost]
    exact read.schema

theorem Moves.schema {step : Step} (moves : Moves before after step) :
    after.reader.schema = before.reader.schema := by
  cases step with
  | enter shared bySchema => exact moves ▸ rfl
  | leave => exact moves ▸ schema_leave before
  | assign setting value => exact moves ▸ schema_assign before setting value
  | remove setting => exact moves ▸ schema_remove before setting
  | announce setting => exact moves ▸ schema_announce before setting
  | unconfigure => exact moves ▸ congrArg Reader.schema (reader_unconfigure before)
  | reconfigure => exact moves ▸ congrArg Reader.schema (reader_reconfigure before)
  | configure schema overrides =>
    rcases moves with same | ⟨sections, written⟩
    · rw [same]
    · exact schema_configure written
  | clearMemory reader =>
    cases reader with
    | none => exact moves ▸ rfl
    | some handle => exact ReadTo.schema moves
  | startUp validateOnly debug => exact StartsUp.schema moves
  | _ => exact ReadTo.schema moves

end

/-- In every state of a session the shared reader is for no schema of its own. -/
theorem schema_after (steps : List Step) (session : Session) :
    (session.after steps).settings.reader.schema = session.settings.reader.schema := by
  induction steps generalizing session with
  | nil => rfl
  | cons step rest ih => exact (ih _).trans (step_moves session step).schema

section
variable {session : Session}

/-- Steps that only consult the library read its settings and leave the registry as it is. -/
theorem after_consulting (steps : List Step) (consulting : ∀ step ∈ steps, step.isConsulting = true)
    (session : Session) :
    session.settings.ReadTo (session.after steps).settings ∧
      (session.after steps).library.registry = session.library.registry := by
  induction steps generalizing session with
  | nil => exact ⟨.refl, rfl⟩
  | cons step rest ih =>
    have consult := step_consultTo (consulting step List.mem_cons_self) session
    obtain ⟨read, same⟩ := ih
      (fun other member => consulting other (List.mem_cons_of_mem step member))
      (session.step step).2.2
    exact ⟨consult.readTo.trans read, same.trans consult.library.registry⟩

theorem names_listing (session : Session) (registry : Registry) :
    (session.listing registry).names = registry.names := by
  simp [listing, Table.names]

theorem step_enabled {schema : Value} {enabled : Registry} {library : Library}
    (listed : Effect.outcome (Registry.enabled schema) session.quiet.library =
      (.ok enabled, library)) :
    ∃ listing, (session.step (.enabled schema)).1 = .ok (.scalars listing) ∧
      listing.names = enabled.names := by
  have outcome : (Effect.outcome (act (.enabled schema)) session.quiet).1 =
      .ok (.scalars (listing { session.quiet with library := library } enabled)) := by
    simp only [act, Effect.outcome_bind, Act.outcome_ofAction, listed, listScalars,
      Effect.outcome_get, Effect.outcome_pure]
  exact ⟨_, outcome, names_listing _ _⟩

theorem step_buildImage {request : Image.Request} {result : Except Fault Definition}
    (built : (Effect.outcome (Image.configuredScalar request) session.quiet.library).1 = result)
    (handle : String) :
    (session.step (.buildImage handle request)).1 = result.map .definition := by
  change (Effect.outcome (act (.buildImage handle request)) session.quiet).1 = _
  simp only [act, Effect.outcome_bind, Act.outcome_ofAction, built]
  cases result <;> rfl

/-- A start under no debug mode of its own ends as its action does. -/
theorem step_startUp {validateOnly : Bool} {answer : Except Fault Unit} {library : Library}
    (started : Effect.outcome (if validateOnly then Startup.validate else Startup.ready)
      session.quiet.library = (answer, library)) :
    session.step (.startUp validateOnly none) =
      (answer.map fun _ => .nothing, library.events,
        { session.quiet with library := library }) := by
  have plain : Effect.outcome (Startup.underDebug none
      (if validateOnly then Startup.validate else Startup.ready)) session.quiet.library =
        (answer, library) := started
  have outcome : Effect.outcome (act (.startUp validateOnly none)) session.quiet =
      (answer.map fun _ => .nothing, { session.quiet with library := library }) := by
    simp only [act, startUp, Effect.outcome_bind, Act.outcome_ofAction, plain]
    cases answer <;> rfl
  have taken : session.step (.startUp validateOnly none) =
      ((Effect.outcome (act (.startUp validateOnly none)) session.quiet).1,
        (Effect.outcome (act (.startUp validateOnly none)) session.quiet).2.library.events,
        (Effect.outcome (act (.startUp validateOnly none)) session.quiet).2) := rfl
  rw [taken, outcome]

theorem step_validate {answer : Except Fault Unit} {library : Library}
    (validated : Effect.outcome Startup.validate session.quiet.library = (answer, library)) :
    session.step (.startUp true none) =
      (answer.map fun _ => .nothing, library.events,
        { session.quiet with library := library }) :=
  step_startUp validated

theorem step_ready {answer : Except Fault Unit} {library : Library}
    (started : Effect.outcome Startup.ready session.quiet.library = (answer, library)) :
    session.step (.startUp false none) =
      (answer.map fun _ => .nothing, library.events,
        { session.quiet with library := library }) :=
  step_startUp started

/-- What holds of a session for as long as it is only consulted. -/
def Lasts (session : Session) (property : Session → Prop) : Prop :=
  ∀ steps, (∀ step ∈ steps, step.isConsulting = true) → property (session.after steps)

variable {schema : Value}

/-- The scalars of a schema can be listed, and the image scalar is among them where the memory says
so. -/
theorem enabled_of_opens (opens : session.settings.Opens schema) :
    ∃ listing, (session.step (.enabled schema)).1 = .ok (.scalars listing) ∧
      ∃ read, session.settings.ReadTo read ∧
        (Image.standardName ∈ listing.names ↔
          Startup.Enables session.library.registry read schema) := by
  have opensQuiet : session.quiet.library.settings.Opens schema := opens
  obtain ⟨enabled, after, listed, consult, -, -, among⟩ := Startup.enabled_answers opensQuiet
  obtain ⟨listing, answered, names⟩ := step_enabled listed
  exact ⟨listing, answered, after.settings, consult.readTo, names ▸ among⟩

/-- Without scalars nothing is read, so it does not matter for what schema they are listed. -/
theorem enabled_of_empty (empty : session.library.registry = []) (schema : Value) :
    (session.step (.enabled schema)).1 = .ok (.scalars []) := by
  have listed : Effect.outcome (Registry.enabled schema) session.quiet.library =
      (.ok [], session.quiet.library) := by
    simp only [Registry.enabled, Effect.outcome_bind, Effect.outcome_get,
      show session.quiet.library.registry = [] from empty]
    rfl
  obtain ⟨listing, answered, names⟩ := step_enabled listed
  have none : listing = [] := by
    cases listing with
    | nil => rfl
    | cons => cases names
  rw [answered, none]

theorem lasts_of_accepts (opens : session.settings.Writes schema → session.settings.Opens schema)
    (accepts : Startup.Accepts session.library.registry session.settings schema) :
    session.Lasts fun later =>
      ∃ listing, (later.step (.enabled schema)).1 = .ok (.scalars listing) ∧
        (Image.standardName ∈ listing.names → later.Lasts fun still =>
          ∀ handle, ∃ definition,
            (still.step (.buildImage handle (Startup.imageRequest schema))).1 =
              .ok (.definition definition)) := by
  intro steps consulting
  obtain ⟨read, same⟩ := after_consulting steps consulting session
  have acceptsLater := accepts.readTo read
  rw [← same] at acceptsLater
  rcases accepts.lists with writes | empty
  case inr => exact ⟨[], enabled_of_empty (same.trans empty) schema, nofun⟩
  obtain ⟨listing, answered, listed, toListed, among⟩ :=
    enabled_of_opens ((opens writes).readTo read)
  refine ⟨listing, answered, fun there => ?_⟩
  -- Listing reads the setting again, which cannot enable what the check found disabled.
  have enables := Startup.enables_of_readTo acceptsLater.known toListed (among.mp there)
  obtain ⟨definition, builds⟩ := acceptsLater.builds enables
  intro more stillConsulting handle
  obtain ⟨readMore, -⟩ := after_consulting more stillConsulting (session.after steps)
  have buildsStill : Startup.Builds
      ((session.after steps).after more).quiet.library.settings schema (.ok definition) :=
    builds.readTo readMore
  exact ⟨definition, step_buildImage buildsStill.outcome handle⟩

end

end Session

end CustomScalars
