import CustomScalars.Proofs.Image.Positions

/-!
# What a literal stands for

To a scalar that is written as text a literal stands for a value in two ways only: it is a text, or
it is a variable that is bound to something defined. What the value is then up to the scalar's own
check. No other literal stands for anything, whatever it is made of, and is refused in words that
name the variable or the kind of the literal, and the type, whose name has to be one that can be
written.
-/
namespace CustomScalars

namespace Literal

/-- The value that the literal stands for under the bindings. -/
inductive Denotes (bindings : Value) : Literal → Value → Prop where
  | text (content : Value) : Denotes bindings (.text content) content
  | variableRef {name : String} {brand : Option String} {entries : List (Value × Value)}
      {value : Value} : bindings = .record brand entries →
      (Value.named entries).lookup name = some value →
      value.isUndefined = false → Denotes bindings (.variableRef name) value

/-- The words that a literal is refused with where it stands for nothing. -/
def refusal (typeName : Value) : Literal → String
  | .variableRef name => s!"Variable '${name}' is not bound, cannot parse as {typeName.display}"
  | literal => s!"Cannot parse {literal.kindName} literal as {typeName.display}"

end Literal

open Literal (Denotes)

section
variable {bindings : Value}

theorem boundValue_of_denotes {name : String} {value : Value}
    (denotes : Denotes bindings (.variableRef name) value) :
    boundValue bindings name = .ok value ∧ value.isUndefined = false := by
  cases denotes with
  | variableRef given bound defined =>
    rw [given]
    exact ⟨Definition.boundValue_of_lookup bound _, defined⟩

/-- Bindings that are there are a record. A variable that it does not have is undefined, and so is
every variable where there are none. -/
theorem boundValue_total (recorded : bindings.truthy = true →
      ∃ brand entries, bindings = .record brand entries) (name : String) :
    ∃ value, boundValue bindings name = .ok value ∧
      (value.isUndefined = false → Denotes bindings (.variableRef name) value) := by
  by_cases given : bindings.truthy = true
  · obtain ⟨brand, entries, rfl⟩ := recorded given
    refine ⟨((Value.named entries).lookup name).getD .undefined, ?_, fun defined => ?_⟩
    · simp only [boundValue, given, if_true, Value.record?]
    · cases found : (Value.named entries).lookup name with
      | none =>
        rw [found] at defined
        cases defined
      | some value => exact .variableRef rfl found (by rwa [found] at defined)
  · refine ⟨.undefined, ?_, fun defined => by cases defined⟩
    simp only [boundValue, given, Bool.false_eq_true, if_false]

theorem reject_refusal (typeName : Value) (literal : Literal) :
    reject .unsupportedLiteralKind (.ofText (literal.refusal typeName)) =
      .ok (.rejected .unsupportedLiteralKind (literal.refusal typeName)) := by
  cases literal with
  | variableRef name =>
    refine reject_of_visible _ 'V' (by decide) ?_
    have named : 'V' ∈ (toString "Variable '$").toList := by decide
    simp only [Literal.refusal, String.toList_append, List.mem_append, named, true_or]
  | _ =>
    refine reject_of_visible _ 'C' (by decide) ?_
    have named : 'C' ∈ (toString "Cannot parse ").toList := by decide
    simp only [Literal.refusal, String.toList_append, List.mem_append, named, true_or]

theorem parseTextLiteral_of_denotes {literal : Literal} {value : Value}
    (denotes : Denotes bindings literal value) (parseValue : Value → Outcome) (typeName : Value) :
    parseTextLiteral parseValue typeName bindings literal = parseValue value := by
  cases literal with
  | text content =>
    cases denotes
    rfl
  | variableRef name =>
    obtain ⟨bound, defined⟩ := boundValue_of_denotes denotes
    simp only [parseTextLiteral, bound, bind, Except.bind, defined, Bool.false_eq_true, if_false]
  -- No other literal stands for anything.
  | _ => cases denotes

theorem parseTextLiteral_of_not_denotes (recorded : bindings.truthy = true →
      ∃ brand entries, bindings = .record brand entries) {literal : Literal}
    (nothing : ∀ value, ¬ Denotes bindings literal value) (parseValue : Value → Outcome)
    (typeName : Value) :
    parseTextLiteral parseValue typeName bindings literal =
      rejectAs typeName .unsupportedLiteralKind fun _ => literal.refusal typeName := by
  cases literal with
  | text content => exact absurd (.text content) (nothing content)
  | variableRef name =>
    obtain ⟨value, bound, denotes⟩ := boundValue_total recorded name
    have undefined : value.isUndefined = true := by
      by_contra defined
      exact nothing value (denotes (by simpa using defined))
    simp only [parseTextLiteral, bound, bind, Except.bind, undefined, if_true]
    rfl
  | _ => rfl

theorem rejectAs_refusal {typeName : Value} (writable : typeName.isWritable = true)
    (literal : Literal) :
    (rejectAs typeName .unsupportedLiteralKind fun _ => literal.refusal typeName) =
      .ok (.rejected .unsupportedLiteralKind (literal.refusal typeName)) :=
  (rejectAs_of_isWritable writable _ _).trans (reject_refusal typeName literal)

/-- A literal that stands for a value is parsed as that value is, and every other one is refused
for its kind, or as an unbound variable, in the name of a type that can be written. So the check of
the values is asked about the value that the literal stands for and about nothing else, and the
bindings count for variables alone. -/
theorem parseTextLiteral_exact (recorded : bindings.truthy = true →
      ∃ brand entries, bindings = .record brand entries) (parseValue : Value → Outcome)
    (typeName : Value) (literal : Literal) :
    (∀ value, Denotes bindings literal value →
      parseTextLiteral parseValue typeName bindings literal = parseValue value) ∧
    (typeName.isWritable = true → (∀ value, ¬ Denotes bindings literal value) →
      parseTextLiteral parseValue typeName bindings literal =
        .ok (.rejected .unsupportedLiteralKind (literal.refusal typeName))) ∧
    (∀ other : Value → Outcome,
      (∀ value, Denotes bindings literal value → other value = parseValue value) →
      parseTextLiteral other typeName bindings literal =
        parseTextLiteral parseValue typeName bindings literal) ∧
    ((∀ name, literal ≠ .variableRef name) → ∀ others,
      parseTextLiteral parseValue typeName others literal =
        parseTextLiteral parseValue typeName bindings literal) := by
  refine ⟨fun value denotes => parseTextLiteral_of_denotes denotes parseValue typeName,
    fun writable nothing => ?_, fun other agree => ?_, fun fixed others => ?_⟩
  · rw [parseTextLiteral_of_not_denotes recorded nothing, rejectAs_refusal writable]
  · -- Two checks that agree on the one value that counts cannot be told apart.
    by_cases something : ∃ value, Denotes bindings literal value
    · obtain ⟨value, denotes⟩ := something
      rw [parseTextLiteral_of_denotes denotes, parseTextLiteral_of_denotes denotes,
        agree value denotes]
    · have nothing := not_exists.mp something
      rw [parseTextLiteral_of_not_denotes recorded nothing,
        parseTextLiteral_of_not_denotes recorded nothing]
  · cases literal with
    | variableRef name => exact absurd rfl (fixed name)
    | _ => rfl

/-- One variable is bound to `False` and one to the undefined value. The first one is checked, the
second one and a list with the first one in it are not. -/
theorem parseTextLiteral_exact_of_false :
    let bindings := Value.ofEntries [("flag", .bool false), ("gone", .undefined)]
    let parse := parseTextLiteral (fun value => .ok (.accepted value)) (.ofText "Photo") bindings
    (bindings.truthy = true → ∃ brand entries, bindings = .record brand entries) ∧
      parse (.variableRef "flag") = .ok (.accepted (.bool false)) ∧
      parse (.variableRef "gone") = .ok (.rejected .unsupportedLiteralKind
        "Variable '$gone' is not bound, cannot parse as Photo") ∧
      parse (.list [.variableRef "flag"]) = .ok (.rejected .unsupportedLiteralKind
        "Cannot parse list literal as Photo") := by
  intro bindings parse
  have recorded : bindings.truthy = true → ∃ brand entries, bindings = .record brand entries :=
    fun _ => ⟨none, _, rfl⟩
  have exact := parseTextLiteral_exact recorded (fun value => .ok (.accepted value))
    (.ofText "Photo")
  have unbound : ∀ value, ¬ Denotes bindings (.variableRef "gone") value := by
    intro value denotes
    obtain ⟨bound, defined⟩ := boundValue_of_denotes denotes
    cases bound
    cases defined
  refine ⟨recorded, ?_, ?_, ?_⟩
  · exact (exact (.variableRef "flag")).1 _ (.variableRef rfl rfl rfl)
  · exact (exact (.variableRef "gone")).2.1 rfl unbound
  · exact (exact (.list [.variableRef "flag"])).2.1 rfl fun value denotes => by cases denotes

end

end CustomScalars
