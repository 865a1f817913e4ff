import CustomScalars.Proofs.Session.Bracketing
import CustomScalars.Proofs.Session.Validation
import CustomScalars.Proofs.Settings.Folders

/-!
# Settings that were configured last

Whatever is configured for a schema section by section, a lookup for the schema finds in a section
what the latest step said that gave it to the schema, and what it held before where none did. What
is configured for other schemas, in other sections, or read in between makes no difference, and to
a lookup for no schema nothing that is configured at run time does.
-/
namespace CustomScalars

namespace Settings

/-- Everything but what was configured at run time. -/
def Layers.withoutRuntime (layers : Layers) : Layers := ⟨[], layers.host⟩

section
variable {layers : Layers} {brand : Option String} {name key : String}

theorem Layers.resolve_of_configured {value : Value}
    (walked : walk (layers.configured (.text brand name)) (path key) = some value) :
    layers.resolve (some (.text brand name)) (path key) = .ok (some value) := by
  rw [resolve, inRuntime_eq (Value.isKey_text brand name), walked]
  rfl

theorem Layers.resolve_of_not_configured
    (walked : walk (layers.configured (.text brand name)) (path key) = none) :
    layers.resolve (some (.text brand name)) (path key) =
      layers.withoutRuntime.resolve (some (.text brand name)) (path key) := by
  have empty : walk (layers.withoutRuntime.configured (.text brand name)) (path key) = none :=
    walk_empty key
  rw [resolve, resolve, inRuntime_eq (Value.isKey_text brand name), walked,
    inRuntime_eq (Value.isKey_text brand name), empty]
  rfl

/-- A section that is configured is where a key with its name starts. -/
theorem walk_configured {part : String} {rest : List String} (starts : path key = part :: rest)
    (settings : Settings) (brand : Option String) (name : String) :
    walk (settings.layers.configured (.text brand name)) (path key) =
      ((settings.sectionsOf name).lookup part).bind fun source => walk source rest := by
  rw [configured_text, starts, Value.ofEntries, walk, Value.named_keyed]
  cases (settings.sectionsOf name).lookup part <;> rfl

/-- What a section leads to is the answer, and where it leads to nothing what is configured at run
time makes no difference. -/
theorem uncached_of_lookup {settings : Settings} {part : String} {rest : List String}
    (starts : path key = part :: rest) {given : Option Value}
    (found : (settings.sectionsOf name).lookup part = given) (brand : Option String)
    (fallback : Value) :
    (∀ source value, given = some source → Leads source rest value → value.isNull = false →
      settings.layers.uncached (some (.text brand name)) key fallback = .ok value) ∧
    ((∀ source, given = some source → Blocked source rest) →
      settings.layers.uncached (some (.text brand name)) key fallback =
        settings.layers.withoutRuntime.uncached (some (.text brand name)) key fallback) := by
  have walked := walk_configured starts settings brand name
  rw [found] at walked
  refine ⟨fun source value here leads present => ?_, fun blocked => ?_⟩
  · rw [here, Option.bind_some, walk_of_leads leads present] at walked
    rw [Layers.uncached, Layers.resolve_of_configured walked]
    rfl
  · have nothing : walk (settings.layers.configured (.text brand name)) (path key) = none := by
      rw [walked]
      cases given with
      | none => rfl
      | some source => exact walk_of_blocked (blocked source rfl)
    rw [Layers.uncached, Layers.resolve_of_not_configured nothing]
    rfl

end

end Settings

namespace Session

open Settings

/-- The step gives a section to the schema of a name. Of two entries for the section the last one
counts. -/
def Step.Supplies (step : Step) (name part : String) (value : Value) : Prop :=
  ∃ brand overrides entries, step = .configure (.text brand name) overrides ∧
    sections overrides = .ok entries ∧ entries.reverse.lookup part = some value

/-- What the schema of a name has in a section after some steps, given what it had at the start. -/
inductive Settled (name part : String) (start : Option Value) :
    List Step → Option Value → Prop where
  | kept {steps : List Step} : (∀ step ∈ steps, ∀ value, ¬ step.Supplies name part value) →
      Settled name part start steps start
  | latest {earlier later : List Step} {step : Step} {value : Value} :
      step.Supplies name part value →
      (∀ other ∈ later, ∀ value, ¬ other.Supplies name part value) →
      Settled name part start (earlier ++ step :: later) (some value)

theorem exists_settled (name part : String) (start : Option Value) (steps : List Step) :
    ∃ given, Settled name part start steps given := by
  induction steps with
  | nil => exact ⟨start, .kept (List.forall_mem_nil _)⟩
  | cons step rest ih =>
    obtain ⟨given, settled⟩ := ih
    cases settled with
    | @latest earlier later last value supplies none =>
      have further : Settled name part start (step :: earlier ++ last :: later) (some value) :=
        .latest supplies none
      exact ⟨some value, further⟩
    | kept none =>
      -- None of the others supplies the section, so the first step counts if it does.
      by_cases supplies : ∃ value, step.Supplies name part value
      · obtain ⟨value, supplies⟩ := supplies
        have here : Settled name part start ([] ++ step :: rest) (some value) :=
          .latest supplies none
        exact ⟨some value, here⟩
      · exact ⟨start, .kept (List.forall_mem_cons.mpr ⟨not_exists.mp supplies, none⟩)⟩

/-- A step that configures a schema, or only consults the library. -/
def Step.readsOrConfigures : Step → Bool
  | .configure _ _ => true
  | step => step.isConsulting

section
variable {before after : Settings}

theorem StartsUp.runtimes {debug : Option Value} (started : StartsUp before after debug) :
    after.runtimes = before.runtimes := by
  cases debug with
  | none =>
    exact (ReadTo.runtimes started).trans ((runtimes_useUp _).trans (runtimes_ensureHost before))
  | some value =>
    obtain ⟨during, read, rfl⟩ := started
    have during_eq : during.runtimes = before.runtimes := read.runtimes.trans (runtimes_useUp _)
    exact (runtimes_ensureHost _).trans during_eq

theorem Moves.unshared {step : Step} (moved : Moves before after step)
    (unshared : before.Unshared) (numbered : before.Numbered) : after.Unshared := by
  cases step with
  | enter shared bySchema =>
    cases moved
    exact unshared.enter shared bySchema
  | leave =>
    cases moved
    exact unshared.leave
  | assign setting value =>
    exact unshared.of_runtimes (moved ▸ runtimes_assign before setting value)
  | remove setting => exact unshared.of_runtimes (moved ▸ runtimes_remove before setting)
  | announce setting => exact unshared.of_runtimes (moved ▸ runtimes_announce before setting)
  | unconfigure => exact unshared.of_runtimes (moved ▸ runtimes_unconfigure before)
  | reconfigure => exact unshared.of_runtimes (moved ▸ runtimes_reconfigure before)
  | clearMemory reader =>
    cases reader with
    | none => exact unshared.of_runtimes (moved ▸ rfl)
    | some handle => exact unshared.of_runtimes (ReadTo.runtimes moved)
  | configure schema overrides =>
    rcases moved with rfl | ⟨sections, written⟩
    · exact unshared
    · exact unshared.configure numbered written
  | startUp validateOnly debug => exact unshared.of_runtimes (StartsUp.runtimes moved)
  -- What is not named above only reads.
  | _ => exact unshared.of_runtimes (ReadTo.runtimes moved)

end

/-- Every folder in use is that of one schema. -/
structure InOrder (settings : Settings) : Prop where
  numbered : settings.Numbered
  unshared : settings.Unshared

theorem InOrder.step {session : Session} (inOrder : InOrder session.settings) (step : Step) :
    InOrder (session.step step).2.2.settings :=
  ⟨(step_moves session step).numbered inOrder.numbered,
    (step_moves session step).unshared inOrder.unshared inOrder.numbered⟩

theorem inOrder_after (steps : List Step) (session : Session) (inOrder : InOrder session.settings) :
    InOrder (session.after steps).settings := by
  induction steps generalizing session with
  | nil => exact inOrder
  | cons step rest ih => exact ih _ (inOrder.step step)

section
variable {session : Session} {name part : String}

/-- Such a step reads, or it writes the sections that it was given. -/
theorem step_cases_of_calm {step : Step} (calm : step.readsOrConfigures = true)
    (session : Session) :
    session.settings.ReadTo (session.step step).2.2.settings ∨
      ∃ schema overrides entries, step = .configure schema overrides ∧
        sections overrides = .ok entries ∧ session.settings.configure schema entries =
          .ok (session.step step).2.2.settings := by
  by_cases consulting : step.isConsulting = true
  · exact Or.inl (step_consultTo consulting session).readTo
  cases step with
  | configure schema overrides =>
    rcases configure_cases schema overrides session.quiet with same | ⟨entries, given, written⟩
    · exact Or.inl (same ▸ .refl)
    · exact Or.inr ⟨schema, overrides, entries, rfl, given, written⟩
  | _ => exact absurd calm consulting

theorem step_configure {schema overrides : Value} {entries : Sections}
    (keyed : schema.isKey = true) (given : sections overrides = .ok entries)
    (session : Session) : session.settings.configure schema entries =
      .ok (session.step (.configure schema overrides)).2.2.settings := by
  obtain ⟨after, written⟩ := exists_configure keyed session.settings entries
  have outcome :
      (Effect.outcome (configure schema overrides) session.quiet).2.settings = after := by
    have quiet : session.quiet.library.settings.configure schema entries = .ok after := written
    simp only [configure, Effect.outcome_bind, Effect.outcome_get, Act.outcome_changeSettings,
      Act.outcome_ofExcept, given, quiet]
    rfl
  exact written.trans (congrArg Except.ok outcome.symm)

theorem lookup_of_supplies {step : Step} {value : Value} (supplies : step.Supplies name part value)
    (session : Session) :
    ((session.step step).2.2.settings.sectionsOf name).lookup part = some value := by
  obtain ⟨brand, overrides, entries, rfl, given, last⟩ := supplies
  have written := step_configure (Value.isKey_text brand name) given session
  rw [sectionsOf_configure written, Table.lookup_putAll, last]
  rfl

theorem lookup_of_not_supplies {step : Step} (calm : step.readsOrConfigures = true)
    (inOrder : InOrder session.settings) (none : ∀ value, ¬ step.Supplies name part value) :
    ((session.step step).2.2.settings.sectionsOf name).lookup part =
      (session.settings.sectionsOf name).lookup part := by
  obtain read | ⟨schema, overrides, entries, same, given, written⟩ :=
    step_cases_of_calm calm session
  · rw [read.frame]
    rfl
  by_cases named : ∃ brand, schema = .text brand name
  · obtain ⟨brand, rfl⟩ := named
    have silent : entries.reverse.lookup part = Option.none := by
      cases last : entries.reverse.lookup part with
      | none => rfl
      | some value => exact absurd ⟨brand, overrides, entries, same, given, last⟩ (none value)
    rw [sectionsOf_configure written, Table.lookup_putAll, silent]
    rfl
  · rw [sectionsOf_configure_other inOrder.unshared inOrder.numbered written (not_exists.mp named)]

/-- By induction on the steps, in all of which there is one folder for one schema. -/
theorem lookup_kept (steps : List Step) (calm : ∀ step ∈ steps, step.readsOrConfigures = true)
    (none : ∀ step ∈ steps, ∀ value, ¬ step.Supplies name part value) (session : Session)
    (inOrder : InOrder session.settings) :
    ((session.after steps).settings.sectionsOf name).lookup part =
      (session.settings.sectionsOf name).lookup part := by
  induction steps generalizing session with
  | nil => rfl
  | cons step rest ih =>
    obtain ⟨calm, further⟩ := List.forall_mem_cons.mp calm
    obtain ⟨here, later⟩ := List.forall_mem_cons.mp none
    exact (ih further later _ (inOrder.step step)).trans (lookup_of_not_supplies calm inOrder here)

theorem lookup_of_settled {steps : List Step} {given : Option Value}
    (calm : ∀ step ∈ steps, step.readsOrConfigures = true) (inOrder : InOrder session.settings)
    (settled : Settled name part ((session.settings.sectionsOf name).lookup part) steps given) :
    ((session.after steps).settings.sectionsOf name).lookup part = given := by
  cases settled with
  | kept none => exact lookup_kept steps calm none session inOrder
  | @latest earlier later step value supplies none =>
    have further : ∀ other ∈ later, other.readsOrConfigures = true := fun other member =>
      calm other (List.mem_append_right earlier (List.mem_cons_of_mem step member))
    have there := inOrder_after earlier session inOrder
    -- What was there before the step is written over, and nothing after it touches the section.
    rw [after_append]
    exact (lookup_kept later further none _ (there.step step)).trans (lookup_of_supplies supplies _)

theorem levels_after (steps : List Step) (calm : ∀ step ∈ steps, step.readsOrConfigures = true)
    (session : Session) : (session.after steps).settings.levels = session.settings.levels := by
  induction steps generalizing session with
  | nil => rfl
  | cons step rest ih =>
    obtain ⟨here, further⟩ := List.forall_mem_cons.mp calm
    refine (ih further _).trans ?_
    obtain read | ⟨schema, overrides, entries, -, -, written⟩ := step_cases_of_calm here session
    · rw [read.frame]
    · exact (configure_frame written).2

/-- Once a schema is configured nothing is remembered, so the first lookup goes to the layers. -/
theorem read_after_configure {schema overrides : Value} {entries : Sections}
    (keyed : schema.isKey = true) (given : sections overrides = .ok entries)
    (global : session.settings.reader.schema = .null) (key : String) (fallback asked : Value) :
    let written := (session.step (.configure schema overrides)).2.2
    (written.step (.read key fallback asked none)).1 =
      (written.settings.layers.uncached (effectiveSchema asked .null) key fallback).map .value := by
  intro written
  have reader : written.settings.reader = session.settings.reader.clear :=
    (configure_frame (step_configure keyed given session)).1
  have forgotten : written.settings.reader.memory = [] := by
    rw [reader]
    rfl
  have still : written.settings.reader.schema = .null := by
    rw [reader]
    exact global
  rw [read_answer_of_forgotten forgotten, still]

end

/-- After any steps of a session, reads and calls that configure schemas in any order, the last of
them such a call, are followed by a lookup. For a schema it is answered by what its first segment
was given last for that schema, if the other segments lead on to something in it, and as if nothing
were configured at run time otherwise. For no schema it is always answered as if nothing were. -/
theorem configured_latest (steps calls : List Step)
    (calm : ∀ step ∈ calls, step.readsOrConfigures = true) {schema overrides : Value}
    (keyed : schema.isKey = true) {entries : Sections} (given : sections overrides = .ok entries) :
    let start := Session.initial.after steps
    let all := calls ++ [.configure schema overrides]
    let answer (key : String) (fallback asked : Value) :=
      ((start.after all).step (.read key fallback asked none)).1
    (∀ name part rest key, name ≠ "" → path key = part :: rest →
      let before := (start.settings.sectionsOf name).lookup part
      (∃ latest, Settled name part before all latest) ∧
      ∀ latest, Settled name part before all latest → ∀ brand fallback,
        (∀ source value, latest = some source → Leads source rest value → value.isNull = false →
          answer key fallback (.text brand name) = .ok (.value value)) ∧
        ((∀ source, latest = some source → Blocked source rest) →
          answer key fallback (.text brand name) =
            (start.settings.layers.withoutRuntime.uncached (some (.text brand name)) key
              fallback).map .value)) ∧
    ∀ key fallback asked, asked.truthy = false →
      answer key fallback asked =
        (start.settings.layers.withoutRuntime.uncached none key fallback).map .value := by
  intro start all answer
  let written := start.after all
  have calmAll : ∀ step ∈ all, step.readsOrConfigures = true := by
    intro step member
    rcases List.mem_append.mp member with called | last
    · exact calm step called
    · rw [List.mem_singleton.mp last]
      rfl
  have inOrder : InOrder start.settings :=
    inOrder_after steps _ ⟨numbered_initial, unshared_initial⟩
  -- Only the last of the calls has to leave nothing remembered.
  have answered (key : String) (fallback asked : Value) : answer key fallback asked =
      (written.settings.layers.uncached (effectiveSchema asked .null) key fallback).map .value := by
    have global : (start.after calls).settings.reader.schema = .null :=
      (schema_after calls start).trans (schema_after steps .initial)
    have last : written = ((start.after calls).step (.configure schema overrides)).2.2 :=
      after_append start calls [.configure schema overrides]
    change (written.step (.read key fallback asked none)).1 = _
    rw [last]
    exact read_after_configure keyed given global key fallback asked
  have lower : written.settings.layers.withoutRuntime = start.settings.layers.withoutRuntime :=
    congrArg (fun levels => Layers.mk [] (Host.ofLevels levels)) (levels_after all calmAll start)
  refine ⟨fun name part rest key nonempty starts => ⟨exists_settled name part _ all, ?_⟩, ?_⟩
  · intro latest settled brand fallback
    have truthy : (Value.text brand name).truthy = true := by
      simpa [Value.truthy] using nonempty
    have asked : effectiveSchema (.text brand name) .null = some (.text brand name) := by
      rw [effectiveSchema, if_pos truthy]
    obtain ⟨leading, blocking⟩ := uncached_of_lookup starts
      (lookup_of_settled calmAll inOrder settled) brand fallback
    rw [answered, asked, ← lower]
    refine ⟨fun source value found leads present => ?_, fun blocked => ?_⟩
    · rw [leading source value found leads present]
      rfl
    · rw [blocking blocked]
  · intro key fallback asked falsy
    have none : effectiveSchema asked .null = none := by
      rw [effectiveSchema, if_neg (by simp [falsy])]
      rfl
    rw [answered, none, ← lower]
    rfl

/-- A section is configured for the schema `a` before and then again, the one for `b` and another
one for `a` come later, and both values of the section are read and remembered on the way. -/
theorem configured_latest_of_two :
    let one (name : String) (value : Value) := Value.ofEntries [(name, value)]
    let a := Value.ofText "a"
    let steps : List Step := [.configure a (one "c" (one "x" (.int none 1)))]
    let calls : List Step :=
      [.read "c.x" .null a none, .configure a (one "c" (one "x" (.int none 2))),
        .read "c.x" .null a none, .configure (.ofText "b") (one "c" (one "x" (.int none 9)))]
    let last : Value := one "d" (.int none 5)
    let written := (Session.initial.after steps).after (calls ++ [.configure a last])
    (∀ step ∈ calls, step.readsOrConfigures = true) ∧ a.isKey = true ∧
      sections last = .ok [("d", .int none 5)] ∧
      (written.step (.read "c.x" .null a none)).1 = .ok (.value (.int none 2)) ∧
      (written.step (.read "c.x" (.int none 7) .null none)).1 = .ok (.value (.int none 7)) := by
  intro one a steps calls last written
  have calm : ∀ step ∈ calls, step.readsOrConfigures = true := by
    simp [calls, Step.readsOrConfigures, Step.isConsulting]
  have given : sections last = .ok [("d", .int none 5)] := rfl
  have keyed : a.isKey = true := Value.isKey_text none "a"
  have settled (before : Option Value) : Settled "a" "c" before (calls ++ [.configure a last])
      (some (one "x" (.int none 2))) := by
    let step : Step := .configure a (one "c" (one "x" (.int none 2)))
    let later : List Step :=
      [.read "c.x" .null a none, .configure (.ofText "b") (one "c" (one "x" (.int none 9))),
        .configure a last]
    have none : ∀ other ∈ later, ∀ value, ¬ other.Supplies "a" "c" value := by
      rintro other member value ⟨brand, overrides, entries, rfl, supplied, found⟩
      simp only [later, List.mem_cons, List.not_mem_nil, or_false, reduceCtorEq, false_or,
        Step.configure.injEq] at member
      rcases member with ⟨named, -⟩ | ⟨-, rfl⟩
      · simp [Value.ofText] at named
      · cases supplied
        cases found
    have whole : Settled "a" "c" before ([.read "c.x" .null a .none] ++ step :: later)
        (some (one "x" (.int .none 2))) :=
      .latest ⟨.none, _, _, rfl, rfl, rfl⟩ none
    exact whole
  have law := configured_latest steps calls calm keyed given
  refine ⟨calm, keyed, given, ?_, ?_⟩
  · obtain ⟨leading, -⟩ := (law.1 "a" "c" ["x"] "c.x" (by decide) rfl).2 _ (settled _) none .null
    exact leading _ _ rfl (.into rfl (.here _)) rfl
  · exact (law.2 "c.x" (.int none 7) .null rfl).trans rfl

end Session

end CustomScalars
