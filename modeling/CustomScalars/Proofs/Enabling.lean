import CustomScalars.Proofs.Settings.Gathering

/-!
# The scalars that a schema may use

The scalars enabled for a schema are the registered ones, in their order, without those that the
settings disable. What the settings hold for a scalar is looked up while the list is made, and the
list is what the layers say all the same: one schema's lookups do not get in each other's way.
-/
namespace CustomScalars.Registry

open Settings

/-- The settings enable the scalar for the schema, or say nothing of it. -/
def allows (settings : Settings) (schema : Value) (scalar : String) : Bool :=
  (settings.held schema (enabledKey scalar)).all Value.truthy

section
variable {settings before after : Settings} {schema : Value} {scalar : String}

theorem allows_readTo (read : before.ReadTo after) :
    allows after schema scalar = allows before schema scalar := by
  rw [allows, allows, read.held]

theorem allows_congr {other : Settings}
    (same : List.Forall₂ (SameAlong (path (enabledKey scalar))) (settings.sources schema)
      (other.sources schema)) :
    allows settings schema scalar = allows other schema scalar := by
  rw [allows, allows, held_congr same]

theorem allows_iff_of_firstOf {found : Option Value}
    (first : FirstOf (path (enabledKey scalar)) (settings.sources schema) found) :
    allows settings schema scalar = true ↔ ∀ value, found = some value → value.truthy = true := by
  rw [allows, held_of_firstOf first]
  cases found with
  | none => simp
  | some value => simp

/-- A scalar that the settings say nothing of counts as enabled. -/
theorem truthy_held_getD :
    ((settings.held schema (enabledKey scalar)).getD (.bool true)).truthy =
      allows settings schema scalar := by
  rw [allows]
  cases settings.held schema (enabledKey scalar) <;> rfl

end

section
variable {library : Library} {schema : Value}

/-- By induction on the entries. What is read for the first one leaves a memory that is as reliable
as before, and the settings hold for the others what they held. -/
theorem enabledAmong_filters (registry : Registry) (reliable : library.settings.Reliable schema) :
    ∃ after, Effect.outcome (enabledAmong schema registry) library =
        (.ok (registry.filter fun entry => allows library.settings schema entry.1), after) ∧
      library.ConsultTo after ∧ after.settings.Reliable schema := by
  induction registry generalizing library with
  | nil => exact ⟨library, rfl, .refl, reliable⟩
  | cons entry rest ih =>
    obtain ⟨scalar, issued⟩ := entry
    obtain ⟨between, read, consult, reliableBetween⟩ :=
      Action.outcome_readSetting_of_reliable reliable (enabledKey scalar) (.bool true)
    have same : (fun entry : String × Issued => allows between.settings schema entry.1) =
        fun entry => allows library.settings schema entry.1 :=
      funext fun _ => allows_readTo consult.readTo
    by_cases allowed : allows library.settings schema scalar = true
    · obtain ⟨after, listed, others, reliableAfter⟩ := ih reliableBetween
      refine ⟨after, ?_, consult.trans others, reliableAfter⟩
      simp only [enabledAmong, Effect.outcome_bind, read, truthy_held_getD, allowed, if_true,
        listed, Effect.outcome_pure, same, List.filter_cons]
    · let noted := between.reported (.disabled scalar schema)
      have reliableNoted : noted.settings.Reliable schema := reliableBetween
      obtain ⟨after, listed, others, reliableAfter⟩ := ih reliableNoted
      refine ⟨after, ?_, (consult.tail (.reported _)).trans others, reliableAfter⟩
      have listedToo : Effect.outcome (enabledAmong schema rest) noted =
          (.ok (rest.filter fun entry => allows library.settings schema entry.1), after) := by
        rw [listed]
        exact congrArg (fun keeps => (Except.ok (List.filter keeps rest), after)) same
      simp only [enabledAmong, Effect.outcome_bind, read, truthy_held_getD, allowed, if_false,
        Bool.false_eq_true, Action.outcome_report, List.filter_cons]
      exact listedToo

theorem perform_enabled (reliable : library.settings.Reliable schema) :
    ∃ after, (enabled schema).perform library =
        (.ok (library.registry.filter fun entry => allows library.settings schema entry.1), after) ∧
      library.ConsultTo after ∧ after.settings.Reliable schema :=
  enabledAmong_filters library.registry reliable

theorem mem_names_filter_allows_iff {settings : Settings} {registry : Registry} {scalar : String} :
    scalar ∈ Table.names (registry.filter fun entry => allows settings schema entry.1) ↔
      scalar ∈ registry.names ∧ allows settings schema scalar = true := by
  simp only [Table.names, List.mem_map, List.mem_filter]
  constructor
  · rintro ⟨entry, ⟨member, allowed⟩, rfl⟩
    exact ⟨⟨entry, member, rfl⟩, allowed⟩
  · rintro ⟨⟨entry, member, rfl⟩, allowed⟩
    exact ⟨entry, ⟨member, allowed⟩, rfl⟩

/-- With nothing remembered, the scalars enabled for a schema are the registered ones, as they are
and in their order, without those that the settings disable; the registry stays as it is, and they
are the same when they are listed again. A scalar is disabled by the first layer that says anything
of it for the schema, if what it says counts as false. What the layers say of anything else makes no
difference. -/
theorem enabled_exact (fresh : library.settings.reader = .fresh .null)
    (named : schema.CanName) (lists : library.settings.layers.ListsSchemas) :
    let enabled : Registry :=
      library.registry.filter fun entry => allows library.settings schema entry.1
    (∃ after again, (Registry.enabled schema).perform library = (.ok enabled, after) ∧
        after.registry = library.registry ∧
        (Registry.enabled schema).perform after = (.ok enabled, again)) ∧
      (∀ scalar ∈ library.registry.names, ∀ found,
        FirstOf (path (enabledKey scalar)) (library.settings.sources schema) found →
        (scalar ∈ enabled.names ↔ ∀ value, found = some value → value.truthy = true)) ∧
      ∀ other : Library, other.settings.reader = .fresh .null →
        other.settings.layers.ListsSchemas → other.registry = library.registry →
        (∀ scalar ∈ library.registry.names,
          List.Forall₂ (SameAlong (path (enabledKey scalar))) (library.settings.sources schema)
            (other.settings.sources schema)) →
        ((Registry.enabled schema).perform other).1 = .ok enabled := by
  intro enabled
  have reliable := reliable_of_fresh fresh named lists
  refine ⟨?_, ?_, ?_⟩
  · obtain ⟨after, first, consult, reliableAfter⟩ := perform_enabled reliable
    obtain ⟨again, second, -, -⟩ := perform_enabled reliableAfter
    refine ⟨after, again, first, consult.registry, second.trans ?_⟩
    -- Neither the registry nor what the settings hold has changed in between.
    simp only [consult.registry, allows_readTo consult.readTo, enabled]
  · intro scalar registered found first
    rw [mem_names_filter_allows_iff, allows_iff_of_firstOf first]
    exact and_iff_right registered
  · intro other freshToo listsToo registry same
    obtain ⟨after, listed, -, -⟩ := perform_enabled (reliable_of_fresh freshToo named listsToo)
    rw [listed, registry]
    apply congrArg Except.ok
    apply List.filter_congr
    intro entry member
    exact (allows_congr (same entry.1 (List.mem_map_of_mem member))).symm

/-- The host disables the standard scalar for all schemas. A schema for which it says something else
of the scalar is still without it, and one for which it enables the scalar has it. -/
theorem enabled_exact_of_overrides :
    let image (entries : Table Value) : Value :=
      .ofEntries [("custom_scalars", .ofEntries [(Image.standardName, .ofEntries entries)])]
    let bySchema : Value := .ofEntries
      [("strict", image [("case_sensitive", .bool true)]),
        ("public", image [("enabled", .bool true)])]
    let library := Library.initial.changeSettings fun settings =>
      settings.enter (some (image [("enabled", .bool false)])) (some bySchema)
    let keeping := Value.ofText "strict"
    let enabling := Value.ofText "public"
    library.settings.reader = .fresh .null ∧ keeping.CanName ∧ enabling.CanName ∧
      library.settings.layers.ListsSchemas ∧
      (∃ listing after, (enabled keeping).perform library = (.ok listing, after) ∧
        Image.standardName ∉ listing.names) ∧
      ∃ listing after, (enabled enabling).perform library = (.ok listing, after) ∧
        Image.standardName ∈ listing.names := by
  intro image bySchema library keeping enabling
  have lists : library.settings.layers.ListsSchemas := by
    rintro host ⟨⟩ value ⟨⟩ _
    exact ⟨none, _, rfl⟩
  have segments : path (enabledKey Image.standardName) =
      ["custom_scalars", Image.standardName, "enabled"] := by decide
  have registered : Image.standardName ∈ library.registry.names := List.mem_cons_self
  have named (name : String) : (Value.ofText name).CanName := ⟨rfl, rfl⟩
  refine ⟨rfl, named _, named _, lists, ?_, ?_⟩
  · have law := @enabled_exact library keeping rfl (named _) lists
    obtain ⟨after, -, listed, -⟩ := law.1
    have disabled : FirstOf (path (enabledKey Image.standardName))
        (library.settings.sources keeping) (some (.bool false)) := by
      rw [segments]
      apply FirstOf.later (.absent rfl)
      -- What is said of the scalar for the schema is not whether it is enabled.
      apply FirstOf.later (.into rfl (.into rfl (.absent rfl)))
      exact .here (.into rfl (.into rfl (.into rfl (.here _)))) rfl
    refine ⟨_, after, listed, ?_⟩
    rw [law.2.1 _ registered _ disabled]
    intro truthy
    exact absurd (truthy _ rfl) (by decide)
  · have law := @enabled_exact library enabling rfl (named _) lists
    obtain ⟨after, -, listed, -⟩ := law.1
    have enabledThere : FirstOf (path (enabledKey Image.standardName))
        (library.settings.sources enabling) (some (.bool true)) := by
      rw [segments]
      apply FirstOf.later (.absent rfl)
      exact .here (.into rfl (.into rfl (.into rfl (.here _)))) rfl
    refine ⟨_, after, listed, ?_⟩
    rw [law.2.1 _ registered _ enabledThere]
    rintro value ⟨⟩
    rfl

end

end CustomScalars.Registry
