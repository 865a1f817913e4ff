import CustomScalars.Proofs.Definition.Naming
import CustomScalars.Proofs.Image.Positions
import CustomScalars.Proofs.Settings.Gathering

/-!
# Image scalars given and configured

What a request for an image scalar gives goes before what the settings have for its schema, and it
does so also where it counts as false. Once the extensions and the policy on case are chosen, the
name being a good one, it is the extensions alone that decide whether the scalar can be built: one
of them has to be more than dots, and none of them a number too long to be written. The scalar
checks values as the rule does that is built from the two. Where neither the request nor the host
says anything, that scalar cannot be told from the standard one: the defaults list the extensions
that the standard one was made from.
-/
namespace CustomScalars

namespace Settings

/-- The value is the one given, or, null being none, what the first layer has that has anything. -/
inductive Chosen (settings : Settings) (schema : Value) (key : String) : Value → Value → Prop where
  | given {value : Value} : value.isNull = false → Chosen settings schema key value value
  | layered {value : Value} : FirstOf (path key) (settings.sources schema) (some value) →
      Chosen settings schema key .null value

section
variable {settings before after : Settings} {schema given value : Value} {key : String}

theorem Chosen.unique {other : Value} (chosen : settings.Chosen schema key given value)
    (chosenToo : settings.Chosen schema key given other) : value = other := by
  cases chosen with
  | given present =>
    cases chosenToo with
    | given => rfl
    | layered => cases present
  | layered first =>
    cases chosenToo with
    | given present => cases present
    | layered firstToo =>
      exact Option.some.inj ((held_of_firstOf first).symm.trans (held_of_firstOf firstToo))

theorem Chosen.of_readTo (chosen : after.Chosen schema key given value)
    (read : before.ReadTo after) : before.Chosen schema key given value := by
  cases chosen with
  | given present => exact .given present
  | layered first => exact .layered (read.sources schema ▸ first)

/-- Where nothing lies over them, the defaults decide. -/
theorem Chosen.of_blocked
    (blocked : ∀ layer ∈ settings.overrides schema, Blocked layer (path key))
    (leads : Leads defaults (path key) value) (present : value.isNull = false) :
    settings.Chosen schema key .null value :=
  .layered (firstOf_append blocked (.here leads present))

end

end Settings

namespace Action

open Settings

/-- What is not given is read, and a setting with a default is found in some layer. -/
theorem outcome_orSetting_of_reliable {library : Library} {schema : Value} {key : String}
    (reliable : library.settings.Reliable schema) (default : HasDefault key)
    (given fallback : Value) :
    ∃ value after, Effect.outcome (orSetting given key fallback schema) library =
        (.ok value, after) ∧
      library.settings.Chosen schema key given value ∧ library.ConsultTo after ∧
      after.settings.Reliable schema := by
  cases given with
  | null =>
    obtain ⟨value, held⟩ := exists_held_of_hasDefault default library.settings schema
    obtain ⟨after, read, consult, reliableAfter⟩ :=
      outcome_readSetting_of_reliable reliable key fallback
    rw [held] at read
    refine ⟨value, after, read, ?_, consult, reliableAfter⟩
    apply Chosen.layered
    rw [← held]
    exact firstOf_held library.settings schema key
  | _ => exact ⟨_, library, rfl, .given rfl, .refl, reliable⟩

end Action

namespace Image

open Definition (IsFreeName IsBrokenName)
open Settings

theorem perform_configuredScalar {library : Library} {request : Request}
    (reliable : library.settings.Reliable request.schema) :
    ∃ extensions caseSensitive after, (configuredScalar request).perform library =
        (buildScalar request.name request.description extensions caseSensitive, after) ∧
      library.settings.Chosen request.schema extensionsKey request.extensions extensions ∧
      library.settings.Chosen request.schema caseSensitiveKey request.caseSensitive
        caseSensitive := by
  obtain ⟨extensions, between, first, chosen, consult, reliableBetween⟩ :=
    Action.outcome_orSetting_of_reliable reliable Startup.hasDefault_extensions request.extensions
      Rule.defaultExtensions
  obtain ⟨caseSensitive, after, second, chosenToo, -, -⟩ :=
    Action.outcome_orSetting_of_reliable reliableBetween Startup.hasDefault_caseSensitive
      request.caseSensitive (.bool false)
  -- The second value was chosen from the settings after the first read, which hold what they held.
  refine ⟨extensions, caseSensitive, after, ?_, chosen, chosenToo.of_readTo consult.readTo⟩
  change Effect.outcome (configuredScalar request) library = _
  simp only [configuredScalar, Effect.outcome_bind, first, second, Action.outcome_ofExcept]

section
variable {name extensions : Value}

theorem isWritable_of_named (named : IsFreeName name ∨ IsBrokenName name) :
    name.isWritable = true := by
  obtain ⟨brand, text, rfl, -⟩ | ⟨brand, text, content, rfl, -⟩ := named <;> rfl

theorem scalarDraft_usable (name description : Value) (rule : Rule) :
    (scalarDraft name description rule).Usable where
  serialize := ⟨_, rfl⟩
  input := Or.inr ⟨_, _, rfl, rfl⟩

/-- Under a good name a scalar is built when its rule is, and it is refused as the rule is. -/
theorem buildScalar_of_named (named : IsFreeName name ∨ IsBrokenName name)
    (description extensions caseSensitive : Value) :
    (∃ rule definition, Rule.build extensions caseSensitive name = .ok rule ∧
        buildScalar name description extensions caseSensitive = .ok definition ∧
        definition.ChecksBy rule) ∨
      ∃ fault, Rule.build extensions caseSensitive name = .error fault ∧
        buildScalar name description extensions caseSensitive = .error fault := by
  cases built : Rule.build extensions caseSensitive name with
  | error fault =>
    refine Or.inr ⟨fault, rfl, ?_⟩
    rw [buildScalar, built]
    rfl
  | ok rule =>
    obtain ⟨definition, made⟩ :=
      (Definition.exists_ofDraft_iff rfl (scalarDraft_usable name description rule)).mpr named
    refine Or.inl ⟨rule, definition, rfl, ?_, ?_⟩
    · rw [buildScalar, built]
      exact made
    · rw [← Rule.typeName_of_build built] at made
      exact checksBy_of_scalarDraft made

/-- The standard scalar is the one that is built from the standard extensions, which are in order
and in lower case, whatever collection holds them. -/
theorem buildScalar_of_recognized
    (items : extensions.items? = some (recognizedExtensions.map .ofText)) (description : Value) :
    buildScalar (.ofText standardName) description extensions (.bool false) =
      .ok { standardScalar with description := description } := by
  have kept : Rule.normalizeEntries false (recognizedExtensions.map .ofText) =
      recognizedExtensions := by decide
  have built : Rule.build extensions (.bool false) (.ofText standardName) = .ok Rule.standard := by
    unfold Rule.build
    rw [items]
    simp only [Value.truthy, kept]
    rfl
  rw [buildScalar, built]
  rfl

end

theorem path_extensionsKey :
    path extensionsKey = ["custom_scalars", standardName, "extensions"] := by decide

theorem path_caseSensitiveKey :
    path caseSensitiveKey = ["custom_scalars", standardName, "case_sensitive"] := by decide

/-- Where nothing is given and no layer lies over the defaults, what is built answers every call as
the standard scalar does. -/
theorem call_of_blocked {settings : Settings} {schema extensions caseSensitive : Value}
    (blocked : ∀ layer ∈ settings.overrides schema,
      Blocked layer (path extensionsKey) ∧ Blocked layer (path caseSensitiveKey))
    (chosen : settings.Chosen schema extensionsKey .null extensions)
    (chosenToo : settings.Chosen schema caseSensitiveKey .null caseSensitive)
    (description : Value) :
    ∃ definition,
      buildScalar (.ofText standardName) description extensions caseSensitive = .ok definition ∧
      ∀ surface operation,
        definition.call surface operation = standardScalar.call surface operation := by
  have listed : Leads defaults (path extensionsKey) (.ofTexts recognizedExtensions) := by
    rw [path_extensionsKey]
    exact .into rfl (.into rfl (.into rfl (.here _)))
  have lenient : Leads defaults (path caseSensitiveKey) (.bool false) := by
    rw [path_caseSensitiveKey]
    exact .into rfl (.into rfl (.into rfl (.here _)))
  have default := Chosen.of_blocked (fun layer member => (blocked layer member).1) listed rfl
  have defaultToo := Chosen.of_blocked (fun layer member => (blocked layer member).2) lenient rfl
  rw [chosen.unique default, chosenToo.unique defaultToo]
  refine ⟨_, buildScalar_of_recognized rfl description, ?_⟩
  -- No answer depends on the description.
  intro surface operation
  cases surface <;> cases operation <;> rfl

/-- With nothing remembered and a good name, a request comes to the extensions and the policy on
case that it gives, null being neither, and to what the layers have for its schema where it gives
none. An image scalar is then built exactly when the extensions are a collection of which one is
more than dots and no entry is a number too long to be written, and values, be they going out or
coming in, are checked with the rule that is built from the two. A number that is too long is the
fault where there is one; otherwise there is a configuration fault under the name asked for. Where
nothing is given and no layer lies over the defaults, the scalar answers every call as the standard
one does. -/
theorem configuredScalar_exact {library : Library} {request : Request}
    (fresh : library.settings.reader = .fresh .null) (schema : request.schema.CanName)
    (lists : library.settings.layers.ListsSchemas)
    (named : IsFreeName request.name ∨ IsBrokenName request.name) :
    let built := ((configuredScalar request).perform library).1
    ∃ extensions caseSensitive,
      library.settings.Chosen request.schema extensionsKey request.extensions extensions ∧
      library.settings.Chosen request.schema caseSensitiveKey request.caseSensitive
        caseSensitive ∧
      ((∃ definition, built = .ok definition) ↔
        Rule.Sufficient extensions ∧ Rule.Legible extensions) ∧
      (∀ definition, built = .ok definition → ∃ rule,
        Rule.build extensions caseSensitive request.name = .ok rule ∧
        rule.caseSensitive = caseSensitive.truthy ∧
        ∀ value, definition.serialize value = rule.check value ∧
          definition.contractParseValue value = rule.check value) ∧
      (¬ Rule.Legible extensions → built = .error (.longNumber none)) ∧
      (Rule.Legible extensions → ¬ Rule.Sufficient extensions → ∃ fault, built = .error fault ∧
        fault.category = .configuration ∧ fault.scalar = request.name) ∧
      (request.name = .ofText standardName → request.extensions = .null →
        request.caseSensitive = .null →
        (∀ layer ∈ library.settings.overrides request.schema,
          Blocked layer (path extensionsKey) ∧ Blocked layer (path caseSensitiveKey)) →
        ∃ definition, built = .ok definition ∧ ∀ surface operation,
          definition.call surface operation = standardScalar.call surface operation) := by
  intro built
  obtain ⟨extensions, caseSensitive, after, performed, chosen, chosenToo⟩ :=
    perform_configuredScalar (reliable_of_fresh fresh schema lists)
  have comes : built = buildScalar request.name request.description extensions caseSensitive :=
    congrArg Prod.fst performed
  have builds : (∃ rule, Rule.build extensions caseSensitive request.name = .ok rule) ↔
      Rule.Sufficient extensions ∧ Rule.Legible extensions := Rule.exists_build_iff
  have judged := buildScalar_of_named named request.description extensions caseSensitive
  rw [← comes] at judged
  refine ⟨extensions, caseSensitive, chosen, chosenToo, ?_, ?_, ?_, ?_, ?_⟩
  · rw [← builds]
    rcases judged with ⟨rule, definition, ruled, made, -⟩ | ⟨fault, refused, failed⟩
    · exact iff_of_true ⟨definition, made⟩ ⟨rule, ruled⟩
    · simp [refused, failed]
  · intro definition made
    -- The rule has the policy on case that it was built with.
    rcases judged with ⟨rule, other, ruled, madeToo, checks⟩ | ⟨fault, refused, failed⟩
    · cases madeToo.symm.trans made
      obtain ⟨entries, -, rfl⟩ := Rule.build_eq_ok ruled
      obtain ⟨typeName, input⟩ := checks.input
      refine ⟨_, ruled, rfl, fun value => ⟨congrFun checks.serialize value, ?_⟩⟩
      rw [Definition.contractParseValue, input]
    · exact nomatch failed.symm.trans made
  · intro illegible
    rw [comes, buildScalar, Rule.build_of_not_legible illegible]
    rfl
  · intro legible insufficient
    rcases judged with ⟨rule, definition, ruled, -⟩ | ⟨fault, refused, failed⟩
    · exact absurd (builds.mp ⟨rule, ruled⟩).1 insufficient
    · exact ⟨fault, failed, Rule.build_eq_error legible (isWritable_of_named named) refused⟩
  · intro standard noExtensions noPolicy blocked
    rw [noExtensions] at chosen
    rw [noPolicy] at chosenToo
    rw [comes, standard]
    exact call_of_blocked blocked chosen chosenToo request.description

/-- The host has other extensions and asks for case to be respected, and the request says only that
it need not be. Both are followed: `HEIC` passes for the host's `heic`, and `png` does not. -/
theorem configuredScalar_exact_of_false :
    let shared : Value := .ofEntries [("custom_scalars", .ofEntries [(standardName, .ofEntries
      [("extensions", .ofTexts ["heic"]), ("case_sensitive", .bool true)])])]
    let library := Library.initial.changeSettings fun settings => settings.enter (some shared) none
    let request : Request := ⟨.ofText "Photo", .null, .null, .bool false, .ofText "public"⟩
    library.settings.reader = .fresh .null ∧ request.schema.CanName ∧
      library.settings.layers.ListsSchemas ∧
      (IsFreeName request.name ∨ IsBrokenName request.name) ∧
      ∃ photo, ((configuredScalar request).perform library).1 = .ok photo ∧
        photo.serialize (.ofText "a.HEIC") = .ok (.accepted (.ofText "a.HEIC")) ∧
        ∃ message, photo.contractParseValue (.ofText "a.png") =
          .ok (.rejected .notRecognizedImage message) := by
  intro shared library request
  have lists : library.settings.layers.ListsSchemas := by
    rintro host ⟨⟩ value ⟨⟩ truthy
    cases truthy
  have named : IsFreeName request.name ∨ IsBrokenName request.name :=
    Or.inl ⟨none, "Photo", rfl, by decide, by decide, by decide⟩
  have schema : request.schema.CanName := ⟨rfl, rfl⟩
  obtain ⟨extensions, caseSensitive, chosen, chosenToo, succeeds, checks, -, -, -⟩ :=
    @configuredScalar_exact library request rfl schema lists named
  -- Nothing is there for the schema, and the host has extensions for all.
  have heic : FirstOf (path extensionsKey) (library.settings.sources request.schema)
      (some (.ofTexts ["heic"])) := by
    rw [path_extensionsKey]
    apply FirstOf.later (.absent rfl)
    apply FirstOf.later (.absent rfl)
    exact .here (.into rfl (.into rfl (.into rfl (.here _)))) rfl
  cases chosen.unique (.layered heic)
  cases chosenToo.unique (.given rfl)
  have sufficient : Rule.Sufficient (.ofTexts ["heic"]) :=
    ⟨_, rfl, .ofText "heic", List.mem_singleton_self _, rfl, 'h', by decide, by decide⟩
  have legible : Rule.Legible (.ofTexts ["heic"]) := by
    rintro entries ⟨⟩ entry member -
    rw [List.mem_singleton.mp member]
    rfl
  obtain ⟨photo, built⟩ := succeeds.mpr ⟨sufficient, legible⟩
  obtain ⟨rule, ruled, -, answers⟩ := checks photo built
  have known : Rule.build (.ofTexts ["heic"]) (.bool false) request.name =
      .ok ⟨["heic"], false, .ofText "Photo"⟩ := rfl
  cases known.symm.trans ruled
  refine ⟨rfl, schema, lists, named, photo, built, ?_, ?_⟩
  · rw [(answers _).1]
    rfl
  · rw [(answers _).2]
    exact ⟨_, rfl⟩

/-- A number too long to be written, given as the only extension, is a fault, but none of the
configuration. -/
theorem configuredScalar_fails_for_long_extension :
    let request : Request := { Request.standard with extensions := .list none [.longInt] }
    let library := Library.initial
    library.settings.reader = .fresh .null ∧ request.schema.CanName ∧
      library.settings.layers.ListsSchemas ∧ IsFreeName request.name ∧
      ∃ fault, ((configuredScalar request).perform library).1 = .error fault ∧
        fault.category.isConfiguration = false := by
  intro request library
  have schema : request.schema.CanName := ⟨rfl, rfl⟩
  have lists : library.settings.layers.ListsSchemas := by
    rintro host ⟨⟩ value ⟨⟩ truthy
    cases truthy
  obtain ⟨extensions, caseSensitive, after, performed, chosen, -⟩ :=
    @perform_configuredScalar library request (reliable_of_fresh rfl schema lists)
  cases chosen.unique (.given rfl)
  have illegible : ¬ Rule.Legible (.list none [.longInt]) := fun legible =>
    absurd (legible _ rfl .longInt (List.mem_singleton_self _) Value.truthy_longInt)
      (by simp [Value.isWritable_longInt])
  refine ⟨rfl, schema, lists, ⟨none, standardName, rfl, by decide, by decide, by decide⟩,
    .longNumber none, ?_, rfl⟩
  rw [performed, buildScalar, Rule.build_of_not_legible illegible]
  rfl

end Image

end CustomScalars
