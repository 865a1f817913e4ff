import CustomScalars.Proofs.Repeating
import CustomScalars.Proofs.Session.Validation

/-!
# Starting again

The check at startup may fail halfway, and in debug mode the start fails with it; otherwise the
fault is only reported. Either way nothing is changed but what the shared reader remembers, and a
start that is repeated with that memory ends as the first one did. The exception is a host that
names the schemas by what can be gone through once: the first start does that, and those that are
repeated find no schemas there and end as the second one does.
-/
namespace CustomScalars

namespace Settings

/-- What the host says for single schemas comes from one of its levels. -/
theorem exists_schemasFrom {levels : List HostLevel} {host : Host} {value : Value}
    (amounts : Host.ofLevels levels = some host) (given : host.bySchema = some value) :
    ∃ serial, schemasFrom levels = some serial := by
  induction levels generalizing host with
  | nil => cases amounts
  | cons level below ih =>
    cases amounts
    cases said : level.bySchema with
    | inherited =>
      rw [schemasFrom, said]
      rw [HostLevel.onto, said] at given
      cases lower : Host.ofLevels below with
      | none =>
        rw [lower] at given
        cases given
      | some other =>
        rw [lower] at given
        exact ih lower given
    | removed => exact ⟨level.serial, by rw [schemasFrom, said]⟩
    | given _ => exact ⟨level.serial, by rw [schemasFrom, said]⟩

theorem passes_useUp (settings : Settings) : settings.useUp.passes = false := by
  cases passing : settings.passes with
  | false => rw [useUp_of_lasting passing, passing]
  | true =>
    cases given : settings.schemas with
    | none => simp [passes, given] at passing
    | some value =>
      obtain ⟨host, there, said⟩ := Option.bind_eq_some_iff.mp given
      obtain ⟨serial, source⟩ := exists_schemasFrom there said
      rw [useUp, if_pos passing]
      simp [passes, isSpent, source]

end Settings

/-- The faults among what was reported. -/
def Event.faults (events : List Event) : List Event :=
  events.filter fun event => event.level = .error

theorem Library.mild_faults : Mild fun earlier library =>
    Event.faults library.events = Event.faults earlier.events where
  looked := fun _ _ _ _ _ same => same
  reported := by
    intro earlier library event noFault same
    simpa [Event.faults, noFault] using same

namespace Startup

/-- How a start ends when its check ends so, in debug mode or not. -/
def ending (debugging : Bool) : Except Fault Unit → Except Fault Unit
  | .ok done => .ok done
  | .error fault => if debugging then .error fault else .ok ()

theorem map_ending_eq_error_iff {α : Type} {debugging : Bool} {answer : Except Fault Unit}
    {fault : Fault} (result : Unit → α) :
    (ending debugging answer).map result = .error fault ↔
      debugging = true ∧ answer.map result = .error fault := by
  cases answer with
  | ok done => simp [ending, Except.map]
  | error other => cases debugging <;> simp [ending, Except.map]

/-- What a start reports for all to see when its check ends so. -/
def complaints : Except Fault Unit → List Event
  | .ok _ => []
  | .error fault => [.invalid fault]

theorem outcome_ready {library after : Library} {answer : Except Fault Unit}
    (validated : Effect.outcome validate library = (answer, after)) :
    Effect.outcome ready library = (ending (debugMode after.settings) answer,
      { after with events := after.events ++ complaints answer }) := by
  rw [ready, Effect.outcome_tryCatch, validated]
  cases answer with
  | ok done =>
    have silent : after.events ++ complaints (.ok done) = after.events := List.append_nil _
    rw [silent]
    rfl
  | error fault =>
    simp only [handle, Effect.outcome_bind, Action.outcome_report, Effect.outcome_get, ending]
    by_cases debugging : debugMode after.settings = true
    · simp only [Library.reported, debugging, if_true]
      rfl
    · simp only [Library.reported, debugging, if_false, Bool.false_eq_true]
      rfl

theorem debugMode_eq {settings : Settings} {host : Settings.Host}
    (configured : settings.layers.host = some host) :
    debugMode settings = (host.debug.getD .null).truthy := by
  rw [debugMode, configured]
  rfl

theorem debugMode_iff (host : Settings.Host) : (host.debug.getD .null).truthy = true ↔
    ∃ value, host.debug = some value ∧ value.truthy = true := by
  cases host.debug with
  | none => simp [Value.truthy]
  | some value => simp

end Startup

namespace Session

open Settings Startup

/-- The session checks its settings as a start does, and no more. -/
def validated (session : Session) : Except Fault Answer × List Event × Session :=
  session.step (.startUp true none)

def started (session : Session) : Except Fault Answer × List Event × Session :=
  session.step (.startUp false none)

section
variable {session : Session} {host : Host} {answer : Except Fault Unit} {after : Library}

theorem validate_leaves (configured : session.settings.layers.host = some host)
    (validated : Effect.outcome validate session.quiet.library = (answer, after)) :
    session.settings.useUp.ReadTo after.settings ∧ after.registry = session.library.registry ∧
      Event.faults after.events = [] := by
  have here : session.quiet.library.settings.levels ≠ [] := levels_ne_nil_of_host configured
  rw [outcome_validate_of_levels here] at validated
  let gone := session.quiet.library.changeSettings useUp
  have consult := (validateListed_follows Library.mild_consultTo
    (Startup.schemas session.quiet.library.settings)).related
      (Relation.ReflTransGen.refl : gone.ConsultTo gone)
  have silent := (validateListed_follows Library.mild_faults
    (Startup.schemas session.quiet.library.settings)).related
      (rfl : Event.faults gone.events = Event.faults gone.events)
  rw [validated] at consult silent
  exact ⟨consult.readTo, consult.registry, silent⟩

/-- A start ends as its check tells it to, and complains once at most. -/
theorem step_ready_of_validate (configured : session.settings.layers.host = some host)
    (validated : Effect.outcome validate session.quiet.library = (answer, after)) :
    session.started.1 = (ending (host.debug.getD .null).truthy answer).map (fun _ => .nothing) ∧
      Event.faults session.started.2.1 = complaints answer ∧
      after.SameState session.started.2.2.library := by
  obtain ⟨read, -, silent⟩ := validate_leaves configured validated
  have stillThere : after.settings.layers.host = some host := by
    rw [read.layers, layers_useUp]
    exact configured
  have outcome := step_ready (outcome_ready validated)
  rw [debugMode_eq stillThere] at outcome
  have complained : Event.faults (after.events ++ complaints answer) = complaints answer := by
    rw [Event.faults, List.filter_append, ← Event.faults, silent]
    cases answer <;> rfl
  rw [show session.started = _ from outcome]
  exact ⟨rfl, complained, rfl, rfl⟩

/-- A start that follows another one ends like it and complains like it. -/
theorem started_again (configured : session.settings.layers.host = some host)
    (lasting : session.settings.passes = false) :
    session.started.2.2.started.1 = session.started.1 ∧
      Event.faults session.started.2.2.started.2.1 = Event.faults session.started.2.1 := by
  obtain ⟨⟨answer, after⟩, check⟩ :
      ∃ between, Effect.outcome validate session.quiet.library = between := ⟨_, rfl⟩
  have here : session.quiet.library.settings.levels ≠ [] := levels_ne_nil_of_host configured
  obtain ⟨ended, reported, same⟩ := step_ready_of_validate configured check
  obtain ⟨read, -, -⟩ := validate_leaves configured check
  -- The second check starts from what the first one left, without its reports.
  have since : after.SameState session.started.2.2.quiet.library := ⟨same.settings, same.registry⟩
  obtain ⟨final, recheck, -⟩ := outcome_validate_again here lasting check since
  have configuredStill : session.started.2.2.settings.layers.host = some host := by
    rw [show session.started.2.2.settings = after.settings from same.settings, read.layers,
      layers_useUp]
    exact configured
  obtain ⟨endedAgain, reportedAgain, -⟩ := step_ready_of_validate configuredStill recheck
  exact ⟨endedAgain.trans ended.symm, reportedAgain.trans reported.symm⟩

end

/-- What a start of the session comes to, next to the check alone, and to start again after it. -/
structure StartsAsChecked (session : Session) (host : Host) : Prop where
  /-- The start fails in debug mode where the check fails, and with the same fault. -/
  fails : ∀ fault, session.started.1 = .error fault ↔
    (∃ value, host.debug = some value ∧ value.truthy = true) ∧ session.validated.1 = .error fault
  complains : ∀ fault, session.validated.1 = .error fault →
    Event.faults session.started.2.1 = [.invalid fault]
  silent : ∀ answer, session.validated.1 = .ok answer → Event.faults session.started.2.1 = []
  registry : session.started.2.2.library.registry = session.library.registry
  /-- Nothing is changed but what is remembered, and that schemas were gone through. -/
  settings : session.started.2.2.settings =
    { session.settings.useUp with reader := session.started.2.2.settings.reader }
  /-- To start again ends the same way and reports the same. -/
  repeats : session.settings.passes = false →
    session.started.2.2.started.1 = session.started.1 ∧
      Event.faults session.started.2.2.started.2.1 = Event.faults session.started.2.1
  /-- What can be gone through once is gone after the first start. -/
  settles : session.started.2.2.settings.passes = false

/-- With a host that is there, the start fails exactly in debug mode and where the check alone would
fail, and with the same fault; and it reports one fault where the check would fail, and none where
it would not. Nothing is changed but the memory of the shared reader. And however far the check came
and whatever it left in that memory, to start again ends the same way and reports the same, unless
the schemas were named by what can be gone through once and has not been: that is used up, and it
is the starts after the first one that end alike. -/
theorem ready_repeatable (session : Session) {host : Host}
    (configured : session.settings.layers.host = some host) :
    session.StartsAsChecked host := by
  obtain ⟨⟨answer, after⟩, check⟩ :
      ∃ between, Effect.outcome validate session.quiet.library = between := ⟨_, rfl⟩
  have checked : session.validated.1 = answer.map fun _ => .nothing := by
    rw [Session.validated, step_validate check]
  obtain ⟨ended, reported, same⟩ := step_ready_of_validate configured check
  obtain ⟨read, registry, -⟩ := validate_leaves configured check
  have left : session.started.2.2.settings = after.settings := same.settings
  exact {
    fails := by
      intro fault
      rw [show session.started.1 = _ from ended, checked, ← debugMode_iff]
      exact map_ending_eq_error_iff _
    complains := by
      intro fault failed
      rw [checked] at failed
      cases answer with
      | ok done => cases failed
      | error other =>
        cases failed
        exact reported
    silent := by
      intro result passed
      rw [checked] at passed
      cases answer with
      | ok done => exact reported
      | error other => cases passed
    registry := same.registry.trans registry
    settings := by
      rw [left]
      exact read.frame
    repeats := started_again configured
    settles := by
      rw [left, read.frame]
      exact passes_useUp session.settings }

/-- The host gives extensions that are no collection, in debug mode. When the check notices this it
has read and remembered two settings, and the start fails with the same fault twice. -/
theorem ready_repeatable_of_number :
    let extensions := Value.ofEntries [("extensions", .int none 5)]
    let settings := Value.ofEntries [("custom_scalars", .ofEntries [("Image", extensions)])]
    let session := Session.initial.after [.assign .shared settings]
    let fault := Fault.notCollection (.ofText "Image") "int"
    session.settings.layers.host =
        some ⟨some settings, some (.ofEntries []), some (.bool true)⟩ ∧
      session.started.1 = .error fault ∧
      session.started.2.2.started.1 = .error fault := by
  intro extensions settings session fault
  have configured : session.settings.layers.host =
      some ⟨some settings, some (.ofEntries []), some (.bool true)⟩ := rfl
  have failed : session.validated.1 = .error fault := by rfl
  have starts := ready_repeatable session configured
  have stopped : session.started.1 = .error fault :=
    (starts.fails fault).mpr ⟨⟨.bool true, rfl, rfl⟩, failed⟩
  exact ⟨configured, stopped, (starts.repeats rfl).1.trans stopped⟩

/-- A generator of one name, in debug mode: the first start goes through it and then fails, as a
generator has nothing under a name. For the second one it names no schemas, and all is well. -/
theorem ready_not_repeatable_for_generator :
    let names := Value.stream "generator" true [.ofText "public"]
    let session := Session.initial.after [.assign .bySchema names]
    (∃ host, session.settings.layers.host = some host) ∧
      session.started.1 = .error (.notRecord "generator") ∧
      ∃ answer, session.started.2.2.started.1 = .ok answer := by
  intro names session
  have passed : session.started.2.2.started.1.isOk = true := by decide +kernel +revert
  refine ⟨⟨_, rfl⟩, rfl, ?_⟩
  cases ended : session.started.2.2.started.1 with
  | ok answer => exact ⟨answer, rfl⟩
  | error fault =>
    rw [ended] at passed
    cases passed

end Session

end CustomScalars
