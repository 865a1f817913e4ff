import CustomScalars.Proofs.Image.Positions

/-!
# Rules that accept something

A rule keeps each of its entries as it is written, leading dots apart, and the extension that it
finds in a reference has neither dots nor slashes. So a rule may have extensions to compare with of
which none is ever found, such as `tar.gz`, and then it rejects every value. It accepts something
exactly when one of its entries can be an extension.
-/
namespace CustomScalars

/-- A literal that is accepted is a text or a variable, and its value is accepted. -/
theorem accepted_of_parseTextLiteral {parseValue : Value → Outcome}
    {typeName bindings accepted : Value} {literal : Literal}
    (parsed : parseTextLiteral parseValue typeName bindings literal = .ok (.accepted accepted)) :
    (∃ content, literal = .text content ∧ parseValue content = .ok (.accepted accepted)) ∨
      ∃ name value, literal = .variableRef name ∧ boundValue bindings name = .ok value ∧
        parseValue value = .ok (.accepted accepted) := by
  unfold parseTextLiteral at parsed
  split at parsed
  next name =>
    obtain ⟨value, bound, checked⟩ := bind_eq_ok_iff.mp parsed
    split at checked
    · exact absurd checked (rejectAs_ne_accepted _ _ _ _)
    · exact Or.inr ⟨name, value, rfl, bound, checked⟩
  next content => exact Or.inl ⟨content, rfl, parsed⟩
  · exact absurd parsed (rejectAs_ne_accepted _ _ _ _)

namespace Image

/-- The text can be found as an extension. -/
structure IsExtension (text : List Char) : Prop where
  nonempty : text ≠ []
  dotless : '.' ∉ text
  slashless : '/' ∉ text

theorem EndsIn.isExtension {reference extension : List Char} (ends : EndsIn reference extension) :
    IsExtension extension :=
  ⟨ends.nonempty, ends.dotless, ends.slashless⟩

theorem IsExtension.endsIn {extension : List Char} (is : IsExtension extension) :
    EndsIn ('.' :: extension) extension :=
  ⟨is.nonempty, is.dotless, is.slashless, [], rfl⟩

namespace Rule

/-- What a configured entry asks for: its text, leading dots left out. -/
def entryText (entry : Value) : List Char := entry.display.toList.dropWhile (· = '.')

/-- One of the values that extensions were given by asks for something that can be found. -/
def Useful (extensions : Value) : Prop :=
  ∃ entries, extensions.items? = some entries ∧ ∃ entry ∈ entries, entry.truthy = true ∧
    IsExtension (entryText entry)

theorem isExtension_normalize_iff {caseSensitive : Bool} {text : List Char} :
    IsExtension (normalize caseSensitive text) ↔ IsExtension text := by
  cases caseSensitive with
  | true => exact Iff.rfl
  | false =>
    have dots : '.' ∈ Text.lower text ↔ '.' ∈ text :=
      Text.mem_lower_iff (by decide) (by decide) text
    have slashes : '/' ∈ Text.lower text ↔ '/' ∈ text :=
      Text.mem_lower_iff (by decide) (by decide) text
    constructor
    · rintro ⟨nonempty, dotless, slashless⟩
      exact ⟨mt Text.lower_eq_nil_iff.mpr nonempty, mt dots.mpr dotless, mt slashes.mpr slashless⟩
    · rintro ⟨nonempty, dotless, slashless⟩
      exact ⟨mt Text.lower_eq_nil_iff.mp nonempty, mt dots.mp dotless, mt slashes.mp slashless⟩

section
variable {extensions caseSensitive typeName : Value}

/-- Extensions of which one can be found are enough to build a rule, if they can be written. -/
theorem exists_build_of_useful (useful : Useful extensions) (legible : Legible extensions)
    (caseSensitive typeName : Value) :
    ∃ rule, build extensions caseSensitive typeName = .ok rule := by
  obtain ⟨entries, items, entry, member, given, is⟩ := useful
  refine exists_build_iff.mpr ⟨⟨entries, items, entry, member, given, ?_⟩, legible⟩
  -- Of a text of dots nothing would be left to be found.
  have dotted : ¬ ∀ char ∈ entry.display.toList, char = '.' := by
    intro dots
    exact is.nonempty (List.dropWhile_eq_nil_iff.mpr (by simpa using dots))
  simpa using dotted

theorem accepts_iff_useful {rule : Rule}
    (built : build extensions caseSensitive typeName = .ok rule) :
    (∃ value accepted, rule.check value = .ok (.accepted accepted)) ↔ Useful extensions := by
  constructor
  · rintro ⟨value, accepted, checked⟩
    obtain ⟨-, brand, reference, extension, -, ends, recognized⟩ := check_accepted_iff.mp checked
    obtain ⟨entries, items, entry, member, given, same⟩ :=
      (recognizes_iff_listed built ends.nonempty).mp recognized
    -- What was found can be an extension, so the entry of the same small form can be one too.
    have found : IsExtension (normalize caseSensitive.truthy extension) :=
      isExtension_normalize_iff.mpr ends.isExtension
    rw [← same] at found
    exact ⟨entries, items, entry, member, given, isExtension_normalize_iff.mp found⟩
  · rintro ⟨entries, items, entry, member, given, is⟩
    have recognized : rule.recognizes (entryText entry) = true :=
      (recognizes_iff_listed built is.nonempty).mpr ⟨entries, items, entry, member, given, rfl⟩
    let written := String.ofList ('.' :: entryText entry)
    have ends : EndsIn written.toList (entryText entry) := by
      simpa only [written, String.toList_ofList] using is.endsIn
    exact ⟨.ofText written, .ofText written,
      check_accepted_iff.mpr ⟨rfl, none, written, entryText entry, rfl, ends, recognized⟩⟩

end

end Rule

end Image

namespace Definition

/-- Only an accepted value is delivered. -/
theorem accepted_of_delivered {definition : Definition} {outcome : Outcome} {emitted : Value}
    (delivered : (outcome >>= definition.deliver) = .ok emitted) :
    outcome = .ok (.accepted emitted) := by
  obtain ⟨verdict, rfl, handed⟩ := bind_eq_ok_iff.mp delivered
  cases verdict with
  | accepted value => cases handed; rfl
  | rejected kind message => cases handed

/-- Wherever an image scalar accepts something, its rule does. -/
theorem ChecksBy.accepts_of_callEngine {definition : Definition} {rule : Image.Rule}
    (checks : definition.ChecksBy rule) {operation : Operation} {emitted : Value}
    (called : definition.callEngine operation = .ok emitted) :
    ∃ value, rule.check value = .ok (.accepted emitted) := by
  obtain ⟨typeName, input⟩ := checks.input
  cases operation with
  | serialize value =>
    rw [callEngine, engineSerialize, checks.serialize] at called
    exact ⟨value, accepted_of_delivered called⟩
  | parseValue value =>
    simp only [callEngine, engineParseValue, input] at called
    exact ⟨value, accepted_of_delivered called⟩
  | parseLiteral literal bindings =>
    simp only [callEngine, engineParseLiteral, input] at called
    obtain ⟨content, -, checked⟩ | ⟨name, value, -, -, checked⟩ :=
      accepted_of_parseTextLiteral (accepted_of_delivered called)
    · exact ⟨content, checked⟩
    · exact ⟨value, checked⟩

/-- An image scalar can accept something, in whatever position, exactly when its rule can. -/
theorem ChecksBy.accepts_iff {definition : Definition} {rule : Image.Rule}
    (checks : definition.ChecksBy rule) :
    (∃ operation emitted, definition.callEngine operation = .ok emitted) ↔
      ∃ value accepted, rule.check value = .ok (.accepted accepted) := by
  constructor
  · rintro ⟨operation, emitted, called⟩
    obtain ⟨value, checked⟩ := checks.accepts_of_callEngine called
    exact ⟨value, emitted, checked⟩
  · rintro ⟨value, accepted, checked⟩
    refine ⟨.serialize value, accepted, ?_⟩
    rw [callEngine, engineSerialize, checks.serialize, checked]
    rfl

end Definition

end CustomScalars
