import CustomScalars.Proofs.Definition.Drafts
import CustomScalars.Proofs.Image.Acceptance
import CustomScalars.Proofs.Settings.Reading

/-!
# The positions of an image scalar

A value meets a scalar when it leaves the server, when it comes in as data, when it is written into
a query, and when a variable of a query is bound to it. An image scalar, the standard one or one
that was built, has one rule for all of them, and so one answer.
-/
namespace CustomScalars

namespace Definition

/-- The engine gets the same outcome for a value wherever it stands. -/
structure Uniform (definition : Definition) (value : Value) (outcome : Except Fault Value) :
    Prop where
  serialize : definition.engineSerialize value = outcome
  parseValue : definition.engineParseValue value = outcome
  parseText : ∀ bindings, definition.engineParseLiteral (.text value) bindings = outcome
  parseVariable : ∀ name brand entries, (Value.named entries).lookup name = some value →
    definition.engineParseLiteral (.variableRef name) (.record brand entries) = outcome

/-- The definition checks the values in all positions with one image rule, whose name is one that
can be written. -/
structure ChecksBy (definition : Definition) (rule : Image.Rule) : Prop where
  writable : rule.typeName.isWritable = true
  serialize : definition.serialize = rule.check
  input : ∃ typeName, definition.input = some ⟨rule.check, rule.parseLiteral typeName⟩

theorem boundValue_of_lookup {entries : List (Value × Value)} {name : String} {value : Value}
    (bound : (Value.named entries).lookup name = some value) (brand : Option String) :
    boundValue (.record brand entries) name = .ok value := by
  cases entries with
  | nil => cases bound
  | cons entry rest => simp [boundValue, Value.truthy, Value.record?, bound]

/-- Only the undefined value is told apart, where it is a variable that is bound to it. -/
theorem ChecksBy.uniform {definition : Definition} {rule : Image.Rule}
    (checks : definition.ChecksBy rule) {value : Value} (defined : value.isUndefined = false)
    {verdict : Verdict} (checked : rule.check value = .ok verdict) :
    definition.Uniform value (definition.deliver verdict) := by
  obtain ⟨typeName, input⟩ := checks.input
  refine ⟨?_, ?_, fun bindings => ?_, fun name brand entries bound => ?_⟩
  · rw [engineSerialize, checks.serialize, checked]
    rfl
  · simp only [engineParseValue, input, checked]
    rfl
  · simp only [engineParseLiteral, input, Image.Rule.parseLiteral, parseTextLiteral, checked]
    rfl
  · simp only [engineParseLiteral, input, Image.Rule.parseLiteral, parseTextLiteral,
      boundValue_of_lookup bound, bind, Except.bind, defined, checked]
    rfl

end Definition

namespace Image

/-- The standard image scalar, and every one that is built in whatever state of the library. -/
def IsImageScalar (definition : Definition) : Prop :=
  definition = standardScalar ∨ ∃ request library after,
    (configuredScalar request).perform library = (.ok definition, after)

theorem buildScalar_eq_ok {name description extensions caseSensitive : Value}
    {definition : Definition}
    (built : buildScalar name description extensions caseSensitive = .ok definition) :
    ∃ rule, Rule.build extensions caseSensitive name = .ok rule ∧
      Definition.ofDraft (scalarDraft name description rule) = .ok definition :=
  bind_eq_ok_iff.mp built

/-- A name that a definition can have is a text, and every text can be written. -/
theorem checksBy_of_scalarDraft {description : Value} {rule : Rule} {definition : Definition}
    (made : Definition.ofDraft (scalarDraft rule.typeName description rule) = .ok definition) :
    definition.ChecksBy rule := by
  have named : rule.typeName = definition.nameValue :=
    Option.some.inj (Definition.madeInto_of_ofDraft made).name
  -- The functions of the draft are all there, so only its name is really checked.
  obtain ⟨⟨brand, text⟩, -, made⟩ := bind_eq_ok_iff.mp made
  cases made
  exact ⟨named ▸ rfl, rfl, rule.typeName, rfl⟩

/-- Every image scalar is what some rule was drafted into, under the name of the rule. -/
theorem IsImageScalar.drafted {definition : Definition} (image : IsImageScalar definition) :
    ∃ description rule,
      Definition.ofDraft (scalarDraft rule.typeName description rule) = .ok definition := by
  rcases image with rfl | ⟨request, library, after, built⟩
  · exact ⟨.ofText scalarDescription, Rule.standard, rfl⟩
  · -- Whatever the two settings come to, the scalar is built from them in the last step.
    obtain ⟨extensions, _, -, built⟩ := Effect.ok_of_outcome_bind_ok built
    obtain ⟨caseSensitive, _, -, built⟩ := Effect.ok_of_outcome_bind_ok built
    rw [Action.outcome_ofExcept] at built
    obtain ⟨rule, ruled, made⟩ := buildScalar_eq_ok (Prod.mk.inj built).1
    exact ⟨request.description, rule, (Rule.typeName_of_build ruled).symm ▸ made⟩

theorem IsImageScalar.checksBy {definition : Definition} (image : IsImageScalar definition) :
    ∃ rule, definition.ChecksBy rule := by
  obtain ⟨description, rule, made⟩ := image.drafted
  exact ⟨rule, checksBy_of_scalarDraft made⟩

/-- An image scalar answers a text the same way wherever it stands, by returning the text itself or
with one validation fault; whatever it lets out it takes back unchanged, and lets out again; and it
answers every other value with one fault for its type, the undefined value apart, which stands for
no value at all where a variable is bound to it. -/
theorem positions_uniform {definition : Definition} (image : IsImageScalar definition) :
    (∀ brand content, ∃ outcome, definition.Uniform (.text brand content) outcome ∧
        (outcome = .ok (.text brand content) ∨ ∃ kind message,
          outcome = .error (.rejectedValue definition.nameValue kind message))) ∧
      (∀ value emitted, definition.engineSerialize value = .ok emitted →
        definition.Uniform emitted (.ok emitted)) ∧
      ∀ value : Value, value.kind ≠ .text → value.isUndefined = false → ∃ message,
        definition.Uniform value
          (.error (.rejectedValue definition.nameValue .wrongBaseType message)) := by
  obtain ⟨rule, checks⟩ := image.checksBy
  refine ⟨fun brand content => ?_, fun value emitted serialized => ?_,
    fun value kind defined => ?_⟩
  · obtain ⟨verdict, checked, answers⟩ := Rule.check_answers checks.writable (.text brand content)
    refine ⟨definition.deliver verdict, checks.uniform rfl checked, ?_⟩
    cases answers with
    | wrongType message kind => exact absurd rfl kind
    | image ends recognized => exact Or.inl rfl
    | unlisted message ends unrecognized otherwise => exact Or.inr ⟨_, message, rfl⟩
    | extensionless message none ending => exact Or.inr ⟨_, message, rfl⟩
  · obtain ⟨verdict, checked, answers⟩ := Rule.check_answers checks.writable value
    rw [Definition.engineSerialize, checks.serialize, checked] at serialized
    -- Of the four answers only one lets a value out, and it is the text that was checked.
    cases answers with
    | wrongType message kind => cases serialized
    | image ends recognized =>
      cases serialized
      exact checks.uniform rfl checked
    | unlisted message ends unrecognized otherwise => cases serialized
    | extensionless message none ending => cases serialized
  · obtain ⟨verdict, checked, answers⟩ := Rule.check_answers checks.writable value
    have uniform := checks.uniform defined checked
    cases answers with
    | wrongType message _ => exact ⟨message, uniform⟩
    | image _ _ => exact absurd rfl kind
    | unlisted _ _ _ _ => exact absurd rfl kind
    | extensionless _ _ _ => exact absurd rfl kind

/-- An image scalar for `.PNG` alone that is built from no settings. -/
theorem positions_uniform_of_request :
    let request : Request :=
      ⟨.ofText "Photo", .null, .list none [.ofText ".PNG"], .bool true, .null⟩
    ∃ photo, (configuredScalar request).perform .initial = (.ok photo, .initial) ∧
      photo.engineSerialize (.ofText "cat.PNG") = .ok (.ofText "cat.PNG") ∧
      photo.Uniform (.ofText "cat.PNG") (.ok (.ofText "cat.PNG")) ∧
      ∃ message, photo.Uniform (.int none 1)
        (.error (.rejectedValue photo.nameValue .wrongBaseType message)) := by
  intro request
  have built : ∃ photo, (configuredScalar request).perform .initial = (.ok photo, .initial) ∧
      photo.engineSerialize (.ofText "cat.PNG") = .ok (.ofText "cat.PNG") := ⟨_, rfl, rfl⟩
  obtain ⟨photo, made, serialized⟩ := built
  have positions := positions_uniform (Or.inr ⟨request, .initial, .initial, made⟩)
  exact ⟨photo, made, serialized, positions.2.1 _ _ serialized,
    positions.2.2 (.int none 1) (by decide) rfl⟩

end Image

end CustomScalars
