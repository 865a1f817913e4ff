import CustomScalars.Proofs.Session.Moves
import CustomScalars.Proofs.Settings.Freshness

/-!
# The shared memory throughout a session

As long as the host is there and tells at once of every change that it makes to the library's
settings, what the shared reader remembers is what the settings hold now. All other steps see to
this themselves: those that change settings clear the memory, and the rest only read.
-/
namespace CustomScalars.Session

open Settings

/-- Whether the step changes the host's settings without the library's knowing. -/
def Step.isUnseen : Step → Bool
  | .assign _ _ | .remove _ | .unconfigure | .reconfigure => true
  | _ => false

/-- Steps in which the host is never taken away and each change of its own is to a setting that the
library reads, and told at once. -/
inductive Announced : List Step → Prop where
  | nil : Announced []
  | seen {step : Step} {rest : List Step} :
      step.isUnseen = false → Announced rest → Announced (step :: rest)
  | assigned {setting : HostSetting} {value : Value} {rest : List Step} :
      setting.isOwn = true → Announced rest →
        Announced (.assign setting value :: .announce (some setting) :: rest)
  | removed {setting : HostSetting} {rest : List Step} :
      setting.isOwn = true → Announced rest →
        Announced (.remove setting :: .announce (some setting) :: rest)

/-- What holds of the settings between the steps of such a session. -/
structure InStep (settings : Settings) : Prop where
  hosted : settings.Hosted
  fresh : settings.Fresh

theorem inStep_initial : InStep Session.initial.settings where
  hosted := ⟨List.cons_ne_nil _ _, fun _ member => nomatch member⟩
  fresh := fun _ _ member => nomatch member

section
variable {before after : Settings}

theorem InStep.clear (hosted : before.Hosted) : InStep before.clear :=
  ⟨⟨hosted.here, hosted.outside⟩, fresh_clear before⟩

theorem InStep.readTo (inStep : InStep before) (read : before.ReadTo after) : InStep after :=
  ⟨read.hosted inStep.hosted, read.fresh inStep.fresh⟩

theorem InStep.useUp (inStep : InStep before) : InStep before.useUp := by
  rw [useUp_eq]
  exact ⟨⟨inStep.hosted.here, inStep.hosted.outside⟩, inStep.fresh⟩

theorem InStep.startsUp {debug : Option Value} (inStep : InStep before)
    (started : StartsUp before after debug) : InStep after := by
  cases debug with
  | none =>
    have present := ensureHost_of_levels inStep.hosted.here
    exact inStep.useUp.readTo (present ▸ started)
  | some value =>
    obtain ⟨during, read, rfl⟩ := started
    -- The memory is filled while the level of the debug mode is there and stays when it is gone.
    have unchanged := resolve_addLevel_debug inStep.hosted.here value
    have opened : (before.addLevel none none (some value)).useUp.Fresh := by
      rw [useUp_eq]
      exact inStep.fresh.of_resolve unchanged
    have kept : during.reader.Fresh during.layers := read.fresh opened
    rw [read.layers, layers_useUp] at kept
    have outer : during.outer = before.outer := by
      rw [read.frame, useUp_eq]
      rfl
    have runtime : during.runtime = before.runtime := by
      rw [read.frame, useUp_eq]
      rfl
    have settled : Settings.ensureHost { during with levels := before.levels } =
        { during with levels := before.levels } := ensureHost_of_levels inStep.hosted.here
    rw [settled]
    refine ⟨⟨inStep.hosted.here, ?_⟩, ?_⟩
    · rw [outer]
      exact inStep.hosted.outside
    · simp only [Fresh, layers, runtime]
      exact kept.of_resolve fun schema path => (unchanged schema path).symm

theorem InStep.moves {step : Step} (inStep : InStep before) (seen : step.isUnseen = false)
    (moved : Moves before after step) : InStep after := by
  cases step with
  | enter shared bySchema =>
    cases moved
    exact ⟨inStep.hosted.enter shared bySchema, fresh_clear _⟩
  | leave =>
    cases moved
    exact ⟨inStep.hosted.leave, inStep.fresh.leave inStep.hosted⟩
  | announce setting =>
    cases moved
    cases setting with
    | none => exact inStep
    | some setting =>
      rw [announce]
      split
      · exact .clear inStep.hosted
      · exact inStep
  | clearMemory reader =>
    cases reader with
    | none =>
      cases moved
      exact .clear inStep.hosted
    | some handle => exact inStep.readTo moved
  | configure schema overrides =>
    rcases moved with rfl | ⟨sections, written⟩
    · exact inStep
    · exact ⟨inStep.hosted.configure written, .configure written⟩
  | startUp validateOnly debug => exact inStep.startsUp moved
  -- The four unseen changes are left out, and what is not named above only reads.
  | assign setting value => cases seen
  | remove setting => cases seen
  | unconfigure => cases seen
  | reconfigure => cases seen
  | _ => exact inStep.readTo moved

/-- It does not matter what the host has done to its levels when it tells of it. -/
theorem InStep.announce {setting : HostSetting} (own : setting.isOwn = true)
    (hosted : before.Hosted) : InStep (before.announce (some setting)) := by
  rw [Settings.announce, if_pos own]
  exact .clear hosted

end

theorem settings_assigned (session : Session) (setting : HostSetting) (value : Value) :
    (session.after [.assign setting value, .announce (some setting)]).settings =
      (session.settings.assign setting value).announce (some setting) := by
  have changed : (session.step (.assign setting value)).2.2.settings =
      session.settings.assign setting value := step_moves session (.assign setting value)
  rw [← changed]
  exact step_moves _ (.announce (some setting))

theorem settings_removed (session : Session) (setting : HostSetting) :
    (session.after [.remove setting, .announce (some setting)]).settings =
      (session.settings.remove setting).2.announce (some setting) := by
  have changed : (session.step (.remove setting)).2.2.settings =
      (session.settings.remove setting).2 := step_moves session (.remove setting)
  rw [← changed]
  exact step_moves _ (.announce (some setting))

/-- By induction on how the steps are announced: a change and the announcement after it are taken
together, and between the two nothing is said of the memory. -/
theorem inStep_after {steps : List Step} (announced : Announced steps) (session : Session)
    (inStep : InStep session.settings) : InStep (session.after steps).settings := by
  induction announced generalizing session with
  | nil => exact inStep
  | @seen step rest seen _ ih =>
    have moved := step_moves session step
    exact ih _ (inStep.moves seen moved)
  | @assigned setting value rest own _ ih =>
    refine ih _ ?_
    have told := settings_assigned session setting value
    simp only [after] at told
    rw [told]
    exact .announce own (inStep.hosted.assign setting value)
  | @removed setting rest own _ ih =>
    refine ih _ ?_
    have told := settings_removed session setting
    simp only [after] at told
    rw [told]
    exact .announce own (inStep.hosted.remove setting)

/-- Whatever the shared reader remembers in the course of such a session is not null, and is what a
lookup remembered under its name finds in the settings as they are. -/
theorem memory_fresh {steps : List Step} (announced : Announced steps) :
    (Session.initial.after steps).settings.Fresh :=
  (inStep_after announced Session.initial inStep_initial).fresh

/-- What was remembered before an override and within it is gone once it is closed. -/
theorem memory_fresh_after_override :
    let steps : List Step :=
      [.assign .shared (.ofEntries [("c", .int none 1)]), .announce (some .shared),
        .read "c" .null .null none, .enter (some (.ofEntries [("c", .int none 2)])) none,
        .read "c" .null (.ofText "a") none, .remove .bySchema, .announce (some .bySchema), .leave,
        .read "d" (.int none 3) .null none, .read "c" .null .null none]
    Announced steps ∧
      (Session.initial.after steps).settings.reader.memory = [("global:c", .int none 1)] ∧
      (Session.initial.after steps).settings.Fresh := by
  intro steps
  have announced : Announced steps :=
    .assigned rfl (.seen rfl (.seen rfl (.seen rfl (.removed rfl (.seen rfl (.seen rfl
      (.seen rfl .nil)))))))
  exact ⟨announced, rfl, memory_fresh announced⟩

end CustomScalars.Session
