import CustomScalars.Proofs.Effect
import CustomScalars.Proofs.Table
import CustomScalars.Registry

/-!
# What registering keeps

In the registry every scalar stands under its own name, and no name stands twice. Definitions are
only ever put in under their own names, so putting one in and taking one out keep it that way.
Putting in also keeps the order: the names that are there stay where they are, and a new one goes
last.
-/
namespace CustomScalars

namespace Registry

/-- Every scalar is registered once, and under its own name. -/
structure Keyed (registry : Registry) : Prop where
  distinct : registry.names.Nodup
  named : ∀ name issued, (name, issued) ∈ registry → issued.name = name

theorem keyed_initial : initial.Keyed where
  distinct := List.nodup_singleton _
  named := by
    intro name issued member
    cases List.mem_singleton.mp member
    rfl

section
variable {registry : Registry}

theorem Keyed.put (keyed : registry.Keyed) (issued : Issued) :
    Keyed (registry.put issued.name issued) where
  distinct := Table.names_nodup_put keyed.distinct _ _
  named := by
    intro name other member
    rcases Table.mem_put member with written | before
    · cases written
      rfl
    · exact keyed.named name other before

theorem Keyed.remove (keyed : registry.Keyed) (name : String) : Keyed (registry.remove name) where
  distinct := Table.names_nodup_remove keyed.distinct name
  named := fun other issued member => keyed.named other issued (List.mem_of_mem_filter member)

theorem isTakenFrom_of_lookup {issued present : Issued}
    (found : registry.lookup issued.name = some present) :
    registry.isTakenFrom issued = (present.serial != issued.serial) := by
  simp only [isTakenFrom, found]

end

section
variable {library : Library} {issued : Issued}

/-- A name that is taken is not given away without being asked for. -/
theorem outcome_register_of_taken (taken : library.registry.isTakenFrom issued = true) :
    Effect.outcome (register issued false) library =
      (.error (.alreadyRegistered issued.definition.nameValue), library) := by
  simp only [register, Effect.outcome_bind, Effect.outcome_get, taken, if_true,
    Bool.false_eq_true, if_false, Effect.outcome_throw]

theorem outcome_register_of_allowed {replacing : Bool}
    (allowed : library.registry.isTakenFrom issued = false ∨ replacing = true) :
    ∃ events, Effect.outcome (register issued replacing) library =
      (.ok (), { library with
        registry := library.registry.put issued.name issued
        events := library.events ++ events }) := by
  cases taken : library.registry.isTakenFrom issued with
  | false =>
    refine ⟨[.registered issued.name], ?_⟩
    simp only [register, Effect.outcome_bind, Effect.outcome_get, taken, Bool.false_eq_true,
      if_false]
    rfl
  | true =>
    -- The name is another one's, so the step has asked to replace it, which is reported too.
    have asked : replacing = true := allowed.resolve_left (by simp [taken])
    refine ⟨[.replacing issued.name, .registered issued.name], ?_⟩
    simp only [register, Effect.outcome_bind, Effect.outcome_get, taken, asked, if_true]
    have joined := List.append_assoc library.events [.replacing issued.name]
      [.registered issued.name]
    rw [List.singleton_append] at joined
    rw [← joined]
    rfl

/-- What is given for a name may be no name at all, and then nothing is taken out. -/
theorem unregister_registry (name : Value) (library : Library) :
    (Effect.outcome (unregister name) library).2 = library ∨
      ∃ key, name.keyName? = .ok (some key) ∧
        (Effect.outcome (unregister name) library).2 =
          { library with registry := library.registry.remove key } := by
  simp only [unregister, Effect.outcome_bind, Effect.outcome_get]
  -- An empty registry is not even asked whether the name can be looked up.
  split
  · exact Or.inl rfl
  · cases name.keyName? with
    | error fault => exact Or.inl rfl
    | ok found =>
      cases found with
      | none => exact Or.inl rfl
      | some key => exact Or.inr ⟨key, rfl, rfl⟩

end

end Registry

end CustomScalars
