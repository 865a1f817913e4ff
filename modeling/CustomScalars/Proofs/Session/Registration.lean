import CustomScalars.Proofs.Registry
import CustomScalars.Proofs.Session.Moves

/-!
# The registry throughout a session

Of all the steps only registering and taking out touch the registry, and only making a definition
gives out a serial number. As the numbers are given out once, two definitions that a session still
knows are one where their numbers are equal, so registering a definition where it stands already
writes what is there.
-/
namespace CustomScalars.Session

/-- What a session keeps of definitions: those registered, those with a name of their own, and the
number of the next one. -/
structure Catalogue where
  registry : Registry
  definitions : Table Issued
  nextSerial : Nat

def catalogue (session : Session) : Catalogue :=
  ⟨session.library.registry, session.definitions, session.nextSerial⟩

/-- The name that a step gives to the definition it makes. -/
def Step.newHandle : Step → Option String
  | .define handle _ | .buildImage handle _ => some handle
  | _ => none

namespace Catalogue

/-- How a step changes the catalogue. A step that ends in a fault leaves it as it was. -/
inductive Becomes (before : Catalogue) : Step → Catalogue → Prop where
  | kept {step : Step} : Becomes before step before
  | issued {step : Step} {handle : String} (definition : Definition) :
      step.newHandle = some handle →
      Becomes before step { before with
        definitions := before.definitions.put handle ⟨before.nextSerial, definition⟩
        nextSerial := before.nextSerial + 1 }
  | registered {handle : String} {replacing : Value} {issued : Issued} :
      before.definitions.lookup handle = some issued →
      before.registry.isTakenFrom issued = false ∨ replacing.truthy = true →
      Becomes before (.register handle replacing)
        { before with registry := before.registry.put issued.name issued }
  | removed {name : Value} {key : String} :
      name.keyName? = .ok (some key) →
      Becomes before (.unregister name) { before with registry := before.registry.remove key }

end Catalogue

section
variable {α : Type}

/-- The act changes nothing in the catalogue. -/
abbrev Act.LeavesCatalogue (act : Act α) : Prop :=
  Effect.Follows (fun earlier session => session.catalogue = earlier.catalogue) act

theorem ConsultTo.catalogue {before after : Session} (consult : before.ConsultTo after) :
    after.catalogue = before.catalogue := by
  simp only [Session.catalogue, consult.library.registry, consult.definitions, consult.nextSerial]

theorem Act.Consults.leavesCatalogue {act : Act α} (consults : Act.Consults act) :
    Act.LeavesCatalogue act :=
  consults.weaken ConsultTo.refl fun _ _ _ same consult => consult.catalogue.trans same

theorem Act.ofAction_leavesCatalogue {action : Action α}
    (same : ∀ library, (Effect.outcome action library).2.registry = library.registry) :
    Act.LeavesCatalogue (Act.ofAction action) := by
  intro earlier session held
  rw [Act.outcome_ofAction, ← held]
  simp only [Session.catalogue, same]

theorem Act.changeSettings_leavesCatalogue (change : Settings → Settings) :
    Act.LeavesCatalogue (Act.changeSettings change) :=
  .bind (.modify fun _ _ same => same) fun _ => .pure _

end

theorem remove_leavesCatalogue (setting : Settings.HostSetting) :
    Act.LeavesCatalogue (remove setting) :=
  .bind .get fun _ => .bind (Act.changeSettings_leavesCatalogue _) fun _ =>
    .bind (Act.ofExcept_consults _).leavesCatalogue fun _ => .pure _

theorem configure_leavesCatalogue (schema overrides : Value) :
    Act.LeavesCatalogue (configure schema overrides) :=
  .bind (Act.ofExcept_consults _).leavesCatalogue fun _ => .bind .get fun _ =>
    .bind (Act.ofExcept_consults _).leavesCatalogue fun _ => Act.changeSettings_leavesCatalogue _

theorem startUp_leavesCatalogue (validateOnly : Bool) (debug : Option Value) :
    Act.LeavesCatalogue (startUp validateOnly debug) := by
  have checked : ∀ library : Library,
      (Effect.outcome (if validateOnly then Startup.validate else Startup.ready)
        library).2.registry = library.registry := by
    intro library
    cases validateOnly with
    | true => exact (Startup.validate_consultTo library).registry
    | false => exact (Startup.ready_consultTo library).registry
  -- A level for the debug mode is laid over the settings and taken away again, which is no matter.
  refine .bind (Act.ofAction_leavesCatalogue fun library => ?_) fun _ => .pure _
  cases debug with
  | none => exact checked library
  | some value =>
    exact checked (library.changeSettings fun settings => settings.addLevel none none (some value))

theorem outcome_issue (handle : String) (definition : Definition) (session : Session) :
    (Effect.outcome (issue handle definition) session).2.catalogue =
      { session.catalogue with
        definitions := session.definitions.put handle ⟨session.nextSerial, definition⟩
        nextSerial := session.nextSerial + 1 } := rfl

/-- A definition that comes out of an act which leaves the catalogue alone, and is then issued. -/
theorem becomes_issue {step : Step} {handle : String} (new : step.newHandle = some handle)
    {act : Act Definition} (leaves : Act.LeavesCatalogue act) (session : Session) :
    session.catalogue.Becomes step
      (Effect.outcome (act >>= issue handle) session).2.catalogue := by
  have same := leaves session session rfl
  rw [Effect.outcome_bind]
  generalize Effect.outcome act session = between at same ⊢
  obtain ⟨fault | definition, during⟩ := between
  · -- Where no definition comes out of the act, no number is given out.
    exact same ▸ .kept
  · simp only [outcome_issue]
    rw [← same]
    exact .issued definition new

section
variable {session : Session} {handle : String} {issued : Issued} {replacing : Value}

theorem outcome_named {α : Type} {table : Session → Table α} {name : String} {thing : α}
    (found : (table session).lookup name = some thing) :
    Effect.outcome (Act.named table name) session = (.ok thing, session) := by
  simp only [Act.named, Effect.outcome_bind, Effect.outcome_get, found, Effect.outcome_pure]

/-- A definition that the session has a name for is registered in the library, and what is
registered then is the answer. -/
theorem outcome_register (named : session.definitions.lookup handle = some issued) :
    Effect.outcome (register handle replacing) session =
      match Effect.outcome (Registry.register issued replacing.truthy) session.library with
      | (.ok _, library) =>
        (.ok (.scalars (listing { session with library := library } library.registry)),
          { session with library := library })
      | (.error fault, library) => (.error fault, { session with library := library }) := by
  simp only [register, Effect.outcome_bind, outcome_named named, Act.outcome_ofAction,
    Effect.outcome_get, listScalars, Effect.outcome_pure]
  obtain ⟨fault | done, library⟩ :=
    Effect.outcome (Registry.register issued replacing.truthy) session.library <;> rfl

/-- A name that is taken is not given away without being asked for: the fault says so, and nothing
is registered. -/
theorem step_register_of_taken (named : session.definitions.lookup handle = some issued)
    (taken : session.library.registry.isTakenFrom issued = true)
    (unasked : replacing.truthy = false) :
    (session.step (.register handle replacing)).1 =
        .error (.alreadyRegistered issued.definition.nameValue) ∧
      (session.step (.register handle replacing)).2.2.catalogue = session.catalogue := by
  have known : session.quiet.definitions.lookup handle = some issued := named
  have stillTaken : session.quiet.library.registry.isTakenFrom issued = true := taken
  have outcome : Effect.outcome (register handle replacing) session.quiet =
      (.error (.alreadyRegistered issued.definition.nameValue), session.quiet) := by
    rw [outcome_register known, unasked, Registry.outcome_register_of_taken stillTaken]
  exact ⟨congrArg Prod.fst outcome, congrArg (fun result => result.2.catalogue) outcome⟩

theorem step_register_of_allowed (named : session.definitions.lookup handle = some issued)
    (allowed : session.library.registry.isTakenFrom issued = false ∨ replacing.truthy = true) :
    (∃ listing, (session.step (.register handle replacing)).1 = .ok (.scalars listing)) ∧
      (session.step (.register handle replacing)).2.2.catalogue =
        { session.catalogue with
          registry := session.library.registry.put issued.name issued } := by
  have known : session.quiet.definitions.lookup handle = some issued := named
  have stillAllowed : session.quiet.library.registry.isTakenFrom issued = false ∨
      replacing.truthy = true := allowed
  obtain ⟨events, registered⟩ := Registry.outcome_register_of_allowed stillAllowed
  have outcome : Effect.outcome (register handle replacing) session.quiet = _ :=
    outcome_register known
  simp only [registered] at outcome
  exact ⟨⟨_, congrArg Prod.fst outcome⟩, congrArg (fun result => result.2.catalogue) outcome⟩

theorem step_register_of_unnamed (unnamed : session.definitions.lookup handle = none) :
    (session.step (.register handle replacing)).2.2.catalogue = session.catalogue := by
  have unknown : session.quiet.definitions.lookup handle = none := unnamed
  have outcome : Effect.outcome (register handle replacing) session.quiet =
      (.error (.notCallable handle), session.quiet) := by
    simp only [register, Act.named, Effect.outcome_bind, Effect.outcome_get, unknown,
      Effect.outcome_throw]
  exact congrArg (fun result => result.2.catalogue) outcome

theorem step_register_becomes (session : Session) (handle : String) (replacing : Value) :
    session.catalogue.Becomes (.register handle replacing)
      (session.step (.register handle replacing)).2.2.catalogue := by
  cases named : session.definitions.lookup handle with
  | none => exact step_register_of_unnamed named ▸ .kept
  | some issued =>
    by_cases allowed :
        session.library.registry.isTakenFrom issued = false ∨ replacing.truthy = true
    · exact (step_register_of_allowed named allowed).2 ▸ .registered named allowed
    · -- Neither free nor asked for: the fault comes before anything is written.
      obtain ⟨taken, unasked⟩ := not_or.mp allowed
      have refused := step_register_of_taken named (Bool.not_eq_false _ ▸ taken)
        (Bool.not_eq_true _ ▸ unasked)
      exact refused.2 ▸ .kept

end

theorem step_unregister_becomes (session : Session) (name : Value) :
    session.catalogue.Becomes (.unregister name)
      (session.step (.unregister name)).2.2.catalogue := by
  have after : (session.step (.unregister name)).2.2.catalogue =
      ⟨(Effect.outcome (Registry.unregister name) session.quiet.library).2.registry,
        session.definitions, session.nextSerial⟩ := by
    change (Effect.outcome (unregister name) session.quiet).2.catalogue = _
    simp only [unregister, Effect.outcome_bind, Act.outcome_ofAction, Effect.outcome_get,
      Effect.outcome_pure]
    generalize Effect.outcome (Registry.unregister name) session.quiet.library = removed
    obtain ⟨fault | found, library⟩ := removed <;> rfl
  rcases Registry.unregister_registry name session.quiet.library with same | ⟨key, found, without⟩
  · rw [after, same]
    exact .kept
  · rw [after, without]
    exact .removed found

/-- Every step, by the catalogue before it and the one after it. -/
theorem step_becomes (session : Session) (step : Step) :
    session.catalogue.Becomes step (session.step step).2.2.catalogue := by
  by_cases consulting : step.isConsulting = true
  · exact (step_consultTo consulting session).catalogue ▸ .kept
  -- What changes the settings, or checks them, has no hold on the catalogue.
  have kept (leaves : Act.LeavesCatalogue (act step)) :
      session.catalogue.Becomes step (session.step step).2.2.catalogue := by
    have same : (session.step step).2.2.catalogue = session.catalogue :=
      leaves session session.quiet rfl
    exact same ▸ .kept
  cases step with
  | define handle draft =>
    exact becomes_issue rfl (Act.ofExcept_consults (Definition.ofDraft draft)).leavesCatalogue
      session.quiet
  | buildImage handle request =>
    exact becomes_issue rfl
      (Act.ofAction_consults (Image.configuredScalar_consults request)).leavesCatalogue
      session.quiet
  | register handle replacing => exact step_register_becomes session handle replacing
  | unregister name => exact step_unregister_becomes session name
  | enter | leave | assign | announce | unconfigure | reconfigure =>
    exact kept (Act.changeSettings_leavesCatalogue _)
  | remove setting => exact kept (remove_leavesCatalogue setting)
  | configure schema overrides => exact kept (configure_leavesCatalogue schema overrides)
  | clearMemory reader =>
    cases reader with
    | none => exact kept (Act.changeSettings_leavesCatalogue _)
    | some handle => exact absurd rfl consulting
  | startUp validateOnly debug => exact kept (startUp_leavesCatalogue validateOnly debug)
  | _ => exact absurd rfl consulting

namespace Catalogue

/-- The session has a name for the definition, or it is registered. -/
def Knows (catalogue : Catalogue) (issued : Issued) : Prop :=
  (∃ handle, (handle, issued) ∈ catalogue.definitions) ∨
    ∃ name, (name, issued) ∈ catalogue.registry

/-- Names are kept right, and of the numbers that are still to come none has been given out. -/
structure Sound (catalogue : Catalogue) : Prop where
  keyed : catalogue.registry.Keyed
  below : ∀ issued, catalogue.Knows issued → issued.serial < catalogue.nextSerial
  apart : ∀ one other, catalogue.Knows one → catalogue.Knows other → one.serial = other.serial →
    one = other

section
variable {before after : Catalogue}

theorem sound_initial : Session.initial.catalogue.Sound := by
  -- There is one definition, which the session has a name for and which is registered.
  have only : ∀ issued, Session.initial.catalogue.Knows issued → issued = .standard := by
    rintro issued (⟨handle, member⟩ | ⟨name, member⟩)
    · exact congrArg Prod.snd (List.mem_singleton.mp member)
    · exact congrArg Prod.snd (List.mem_singleton.mp member)
  refine ⟨Registry.keyed_initial, ?_, ?_⟩
  · intro issued known
    rw [only issued known]
    exact Nat.one_pos
  · intro one other knownOne knownOther _
    rw [only one knownOne, only other knownOther]

/-- Nothing is known afterwards that was not before, apart from the one definition made in the step
where there is one. -/
theorem Becomes.knows {step : Step} (becomes : before.Becomes step after) :
    after.nextSerial = before.nextSerial ∧ (∀ issued, after.Knows issued → before.Knows issued) ∨
      ∃ made : Issued, made.serial = before.nextSerial ∧
        after.nextSerial = before.nextSerial + 1 ∧
        ∀ issued, after.Knows issued → issued = made ∨ before.Knows issued := by
  cases becomes with
  | kept => exact Or.inl ⟨rfl, fun _ known => known⟩
  | issued definition new =>
    refine Or.inr ⟨⟨before.nextSerial, definition⟩, rfl, rfl, ?_⟩
    rintro issued (⟨other, member⟩ | registered)
    · rcases Table.mem_put member with made | old
      · exact Or.inl (congrArg Prod.snd made)
      · exact Or.inr (Or.inl ⟨other, old⟩)
    · exact Or.inr (Or.inr registered)
  | registered named allowed =>
    refine Or.inl ⟨rfl, ?_⟩
    rintro issued (defined | ⟨name, member⟩)
    · exact Or.inl defined
    · -- What is registered has a name in the session, so it was known before.
      rcases Table.mem_put member with put | old
      · cases put
        exact Or.inl ⟨_, Table.mem_of_lookup named⟩
      · exact Or.inr ⟨name, old⟩
  | removed found =>
    refine Or.inl ⟨rfl, ?_⟩
    rintro issued (defined | ⟨name, member⟩)
    · exact Or.inl defined
    · exact Or.inr ⟨name, List.mem_of_mem_filter member⟩

theorem Becomes.keyed {step : Step} (becomes : before.Becomes step after)
    (keyed : before.registry.Keyed) : after.registry.Keyed := by
  cases becomes with
  | kept => exact keyed
  | issued definition new => exact keyed
  | registered named allowed => exact keyed.put _
  | removed found => exact keyed.remove _

theorem Sound.becomes (sound : before.Sound) {step : Step} (becomes : before.Becomes step after) :
    after.Sound := by
  have keyed := becomes.keyed sound.keyed
  rcases becomes.knows with ⟨same, old⟩ | ⟨made, numbered, next, old⟩
  · refine ⟨keyed, ?_, ?_⟩
    · intro issued known
      rw [same]
      exact sound.below issued (old issued known)
    · intro one other knownOne knownOther
      exact sound.apart one other (old one knownOne) (old other knownOther)
  · -- The number of the definition that was made is above all those given out before it.
    have below : ∀ issued, before.Knows issued → issued.serial < made.serial := by
      intro issued known
      rw [numbered]
      exact sound.below issued known
    refine ⟨keyed, ?_, ?_⟩
    · intro issued known
      rcases old issued known with rfl | before
      · omega
      · have lower := below issued before
        omega
    · intro one other knownOne knownOther same
      rcases old one knownOne with rfl | beforeOne
      · rcases old other knownOther with rfl | beforeOther
        · rfl
        · exact absurd same (Nat.ne_of_gt (below other beforeOther))
      · rcases old other knownOther with rfl | beforeOther
        · exact absurd same (Nat.ne_of_lt (below one beforeOne))
        · exact sound.apart one other beforeOne beforeOther same

/-- A name comes to stand for a definition only where that one is registered under it by a step, and
for another one than before only where the step asks for that. -/
theorem Becomes.of_registered {step : Step} (becomes : before.Becomes step after)
    (sound : before.Sound) {name : String} {issued : Issued}
    (found : after.registry.lookup name = some issued)
    (changed : before.registry.lookup name ≠ some issued) :
    ∃ handle replacing, step = .register handle replacing ∧
      before.definitions.lookup handle = some issued ∧ issued.name = name ∧
      ∀ present, before.registry.lookup name = some present → replacing.truthy = true := by
  cases becomes with
  | kept => exact absurd found changed
  | issued definition new => exact absurd found changed
  | @registered handle replacing other named allowed =>
    rw [Table.lookup_put] at found
    split at found
    next here =>
      cases Option.some.inj found
      refine ⟨handle, replacing, rfl, named, here.symm, ?_⟩
      intro present there
      rcases allowed with free | asked
      · -- The name is free for the definition that stands there only, and that is another one.
        subst here
        rw [Registry.isTakenFrom_of_lookup there, bne_eq_false_iff_eq] at free
        have knownPresent : before.Knows present := Or.inr ⟨_, Table.mem_of_lookup there⟩
        have knownIssued : before.Knows issued := Or.inl ⟨_, Table.mem_of_lookup named⟩
        have equal := sound.apart present issued knownPresent knownIssued free
        exact absurd (equal ▸ there) changed
      · exact asked
    · exact absurd found changed
  | removed named =>
    rw [Table.lookup_remove] at found
    split at found
    · cases found
    · exact absurd found changed

theorem Becomes.of_removed {step : Step} (becomes : before.Becomes step after) {name : String}
    {present : Issued} (found : before.registry.lookup name = some present)
    (gone : after.registry.lookup name = none) :
    ∃ key, step = .unregister key ∧ key.keyName? = .ok (some name) := by
  have there : before.registry.lookup name ≠ none := by simp [found]
  cases becomes with
  | kept => exact absurd gone there
  | issued definition new => exact absurd gone there
  | registered named allowed =>
    rw [Table.lookup_put] at gone
    split at gone
    · cases gone
    · exact absurd gone there
  | @removed key other named =>
    rw [Table.lookup_remove] at gone
    split at gone
    next here => exact ⟨key, rfl, here ▸ named⟩
    · exact absurd gone there

end

end Catalogue

/-- By induction on the steps: what a session knows is sound at the start, and stays so in each. -/
theorem sound_after (steps : List Step) (session : Session) (sound : session.catalogue.Sound) :
    (session.after steps).catalogue.Sound := by
  induction steps generalizing session with
  | nil => exact sound
  | cons step rest ih => exact ih _ (sound.becomes (step_becomes session step))

/-- In every state of a session, every scalar is registered once and under its own name. A step
gives a name to a definition only by registering it, and to another one than before only where it
asks for that; it takes a name away only by taking the scalar out. A definition whose name another
one has is refused where that is not asked for, and so is what is no definition. To register again
what is registered already changes nothing. A definition that is not refused has its name
afterwards, every other name stands for what it stood for, and the names that were there are in
their places. -/
theorem registry_kept (steps : List Step) :
    let session := Session.initial.after steps
    let registry := session.library.registry
    let after (step : Step) : Registry := (session.step step).2.2.library.registry
    (registry.names.Nodup ∧ ∀ name issued, (name, issued) ∈ registry → issued.name = name) ∧
    (∀ step name issued, (after step).lookup name = some issued →
      registry.lookup name ≠ some issued →
      ∃ handle replacing, step = .register handle replacing ∧
        session.definitions.lookup handle = some issued ∧ issued.name = name ∧
        ∀ present, registry.lookup name = some present → replacing.truthy = true) ∧
    (∀ step name present, registry.lookup name = some present →
      (after step).lookup name = none →
      ∃ key, step = .unregister key ∧ key.keyName? = .ok (some name)) ∧
    (∀ handle replacing issued present, session.definitions.lookup handle = some issued →
      registry.lookup issued.name = some present → present.serial ≠ issued.serial →
      replacing.truthy = false →
      ∃ fault, (session.step (.register handle replacing)).1 = .error fault ∧
        fault = .alreadyRegistered issued.definition.nameValue ∧ fault.category = .configuration ∧
        after (.register handle replacing) = registry) ∧
    (∀ value, ∃ fault, (session.step (.registerValue value)).1 = .error fault ∧
      fault = .notDefinition value.typeName ∧ fault.category = .configuration ∧
      after (.registerValue value) = registry) ∧
    (∀ handle replacing issued present, session.definitions.lookup handle = some issued →
      registry.lookup issued.name = some present → present.serial = issued.serial →
      (∃ listing, (session.step (.register handle replacing)).1 = .ok (.scalars listing)) ∧
        after (.register handle replacing) = registry) ∧
    ∀ handle replacing issued, session.definitions.lookup handle = some issued →
      (∀ present, registry.lookup issued.name = some present →
        present.serial = issued.serial ∨ replacing.truthy = true) →
      (∃ listing, (session.step (.register handle replacing)).1 = .ok (.scalars listing)) ∧
        (after (.register handle replacing)).lookup issued.name = some issued ∧
        (∀ name, name ≠ issued.name →
          (after (.register handle replacing)).lookup name = registry.lookup name) ∧
        (after (.register handle replacing)).names =
          if issued.name ∈ registry.names then registry.names
          else registry.names ++ [issued.name] := by
  intro session registry after
  have sound : session.catalogue.Sound := sound_after steps _ Catalogue.sound_initial
  have registryAfter (step : Step) :
      (session.step step).2.2.catalogue.registry = after step := rfl
  refine ⟨⟨sound.keyed.distinct, sound.keyed.named⟩, ?_, ?_, ?_, ?_, ?_, ?_⟩
  · intro step name issued found changed
    exact (step_becomes session step).of_registered sound found changed
  · intro step name present found gone
    exact (step_becomes session step).of_removed found gone
  · intro handle replacing issued present named found another unasked
    have taken : registry.isTakenFrom issued = true := by
      rw [Registry.isTakenFrom_of_lookup found]
      exact bne_iff_ne.mpr another
    obtain ⟨refused, same⟩ := step_register_of_taken named taken unasked
    exact ⟨_, refused, rfl, rfl, congrArg Catalogue.registry same⟩
  · intro value
    exact ⟨_, rfl, rfl, rfl, rfl⟩
  · intro handle replacing issued present named found equal
    have free : registry.isTakenFrom issued = false := by
      rw [Registry.isTakenFrom_of_lookup found]
      exact bne_eq_false_iff_eq.mpr equal
    obtain ⟨answered, written⟩ :=
      @step_register_of_allowed session handle issued replacing named (Or.inl free)
    -- One number means one definition, so what is written stands there already.
    have one : present = issued := sound.apart present issued
      (Or.inr ⟨_, Table.mem_of_lookup found⟩) (Or.inl ⟨_, Table.mem_of_lookup named⟩) equal
    refine ⟨answered, ?_⟩
    rw [← registryAfter, written]
    exact Table.put_of_lookup (one ▸ found)
  · intro handle replacing issued named unopposed
    have allowed : registry.isTakenFrom issued = false ∨ replacing.truthy = true := by
      cases found : registry.lookup issued.name with
      | none => exact Or.inl (by simp only [Registry.isTakenFrom, found])
      | some present =>
        rw [Registry.isTakenFrom_of_lookup found, bne_eq_false_iff_eq]
        exact unopposed present found
    obtain ⟨answered, written⟩ := step_register_of_allowed named allowed
    rw [← registryAfter, written]
    refine ⟨answered, ?_, ?_, ?_⟩
    · simp [Table.lookup_put]
    · intro name other
      simp [Table.lookup_put, other, registry]
    · exact Table.names_put registry issued.name issued

/-- A second definition of the image scalar's name is refused until it is to replace the standard
one, whose place it takes then. -/
theorem registry_kept_of_second :
    let image : Draft :=
      ⟨some (.ofText "Image"), .null, .callable .withoutArguments, .absent, .absent⟩
    let session := Session.initial.after [.define "second" image]
    let after (step : Step) : Registry := (session.step step).2.2.library.registry
    session.library.registry.names = ["Image"] ∧
      after (.register "second" .null) = session.library.registry ∧
      after (.register "IMAGE" .null) = session.library.registry ∧
      (after (.register "second" (.bool true))).names = ["Image"] ∧
      ((after (.register "second" (.bool true))).lookup "Image").map Issued.serial = some 1 := by
  intro image session after
  let definition : Definition :=
    ⟨"Image", none, .null, fun _ => .error .wrongArguments, none, none⟩
  have standard : session.definitions.lookup "IMAGE" = some .standard := rfl
  have second : session.definitions.lookup "second" = some ⟨1, definition⟩ := rfl
  have registered : session.library.registry.lookup "Image" = some .standard := rfl
  have names : session.library.registry.names = ["Image"] := rfl
  obtain ⟨-, -, -, refused, -, again, accepted⟩ := registry_kept [.define "second" image]
  obtain ⟨-, found, -, order⟩ :=
    accepted "second" (.bool true) ⟨1, definition⟩ second fun _ _ => Or.inr rfl
  have inPlace : (after (.register "second" (.bool true))).names =
      if "Image" ∈ session.library.registry.names then session.library.registry.names
      else session.library.registry.names ++ ["Image"] := order
  rw [names] at inPlace
  refine ⟨names, ?_, ?_, inPlace, ?_⟩
  · obtain ⟨-, -, -, -, same⟩ :=
      refused "second" .null ⟨1, definition⟩ .standard second registered (by decide) rfl
    exact same
  · exact (again "IMAGE" .null .standard .standard standard registered rfl).2
  · exact congrArg (Option.map Issued.serial) found

end CustomScalars.Session
