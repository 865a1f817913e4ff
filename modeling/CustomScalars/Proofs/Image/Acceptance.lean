import CustomScalars.Proofs.Image.Extension

/-!
# What an image rule accepts

A rule whose name can be written answers every value, and which of its four answers it gives is
decided by the value and by what the rule was built from: a value that is no text is of the wrong
type, a text with a listed extension is accepted as it is, and any other text is no image, for want
of an extension or of a listed one.
-/
namespace CustomScalars

/-- One visible character is enough for a message. -/
theorem reject_of_visible (kind : RejectionKind) {message : String} (char : Char)
    (visible : Text.isWhitespace char = false) (member : char ∈ message.toList) :
    reject kind (.ofText message) = .ok (.rejected kind message) := by
  have readable : Text.isBlank message.toList = false := by
    simp only [Text.isBlank, List.all_eq_false]
    exact ⟨char, member, by simp [visible]⟩
  simp [reject, Value.ofText, readable]

/-- No rejection is an acceptance, not even one that fails for its message. -/
theorem reject_ne_accepted (kind : RejectionKind) (message value : Value) :
    reject kind message ≠ .ok (.accepted value) := by
  unfold reject
  split
  · split <;> simp
  · simp

theorem rejectAs_ne_accepted (typeName : Value) (kind : RejectionKind) (message : String → String)
    (value : Value) : rejectAs typeName kind message ≠ .ok (.accepted value) := by
  unfold rejectAs
  split
  · exact reject_ne_accepted _ _ _
  · simp

namespace Image.Rule

/-- How the message ends that a text without an extension is rejected with. -/
def noExtensionEnding : String := "has no file extension"

section
variable {rule : Rule} (writable : rule.typeName.isWritable = true)
include writable

theorem rejectNoText_eq (value : Value) :
    ∃ message, rule.rejectNoText value = .ok (.rejected .wrongBaseType message) := by
  rw [rejectNoText, rejectAs_of_isWritable writable]
  refine ⟨_, reject_of_visible .wrongBaseType 'm' (by decide) ?_⟩
  simp only [String.toList_append, List.mem_append]
  have named : 'm' ∈ (toString " must be a string, got ").toList := by decide
  simp only [named, true_or, or_true]

theorem rejectNoExtension_eq (reference : String) :
    ∃ message, rule.rejectNoExtension reference = .ok (.rejected .notRecognizedImage message) ∧
      noExtensionEnding.toList <:+ message.toList := by
  rw [rejectNoExtension, rejectAs_of_isWritable writable]
  refine ⟨_, reject_of_visible .notRecognizedImage 'm' (by decide) ?_, ?_⟩
  · simp only [String.toList_append, List.mem_append]
    have named : 'm' ∈ (toString " must reference an image file, '").toList := by decide
    simp only [named, true_or, or_true]
  · have ending : noExtensionEnding.toList <:+ (toString "' has no file extension").toList := by
      decide
    simp only [String.toList_append]
    exact ending.trans (List.suffix_append _ _)

/-- Of two endings of one message the shorter one ends the longer, and these two do not fit. -/
theorem rejectExtension_eq (extension : List Char) :
    ∃ message, rule.rejectExtension extension = .ok (.rejected .notRecognizedImage message) ∧
      ¬ noExtensionEnding.toList <:+ message.toList := by
  rw [rejectExtension, rejectAs_of_isWritable writable]
  refine ⟨_, reject_of_visible .notRecognizedImage 'm' (by decide) ?_, ?_⟩
  · simp only [String.toList_append, List.mem_append]
    have named : 'm' ∈ (toString " must reference an image file, '.").toList := by decide
    simp only [named, true_or, or_true]
  · intro ends
    -- The last part of the message does not depend on the extension.
    simp only [String.toList_append] at ends
    have shorter := List.suffix_of_suffix_length_le ends (List.suffix_append _ _) (by decide)
    exact absurd shorter (by decide)

end

/-- The four answers of a rule, each with what decides for it. -/
inductive Answers (rule : Rule) : Value → Verdict → Prop where
  | wrongType {value : Value} (message : String) : value.kind ≠ .text →
      Answers rule value (.rejected .wrongBaseType message)
  | image {brand : Option String} {reference : String} {extension : List Char} :
      EndsIn reference.toList extension → rule.recognizes extension = true →
      Answers rule (.text brand reference) (.accepted (.text brand reference))
  | unlisted {brand : Option String} {reference : String} {extension : List Char}
      (message : String) : EndsIn reference.toList extension →
      rule.recognizes extension = false → ¬ noExtensionEnding.toList <:+ message.toList →
      Answers rule (.text brand reference) (.rejected .notRecognizedImage message)
  | extensionless {brand : Option String} {reference : String} (message : String) :
      (∀ extension, ¬ EndsIn reference.toList extension) →
      noExtensionEnding.toList <:+ message.toList →
      Answers rule (.text brand reference) (.rejected .notRecognizedImage message)

theorem check_of_kind {value : Value} (kind : value.kind ≠ .text) (rule : Rule) :
    rule.check value = rule.rejectNoText value := by
  cases value with
  | text brand reference => exact absurd rfl kind
  | _ => rfl

theorem check_answers {rule : Rule} (writable : rule.typeName.isWritable = true) (value : Value) :
    ∃ verdict, rule.check value = .ok verdict ∧ rule.Answers value verdict := by
  by_cases kind : value.kind = .text
  · obtain ⟨brand, reference, rfl⟩ := Value.kind_eq_text_iff.mp kind
    cases found : extension? reference.toList with
    | none =>
      obtain ⟨message, answer, ending⟩ := rejectNoExtension_eq writable reference
      refine ⟨_, ?_, .extensionless message (extension?_eq_none_iff.mp found) ending⟩
      simp only [check, found, answer]
    | some extension =>
      have ends := extension?_eq_some_iff.mp found
      cases recognized : rule.recognizes extension with
      | true =>
        refine ⟨_, ?_, .image ends recognized⟩
        simp only [check, found, recognized, if_true]
      | false =>
        obtain ⟨message, answer, ending⟩ := rejectExtension_eq writable extension
        refine ⟨_, ?_, .unlisted message ends recognized ending⟩
        simp only [check, found, recognized, answer, Bool.false_eq_true, if_false]
  · obtain ⟨message, answer⟩ := rejectNoText_eq writable value
    exact ⟨_, (check_of_kind kind rule).trans answer, .wrongType message kind⟩

/-- A rule whose name cannot be written rejects nothing: where it does not accept a value, it fails.
-/
theorem check_of_not_writable {rule : Rule} (unwritable : rule.typeName.isWritable = false)
    (value : Value) :
    rule.check value = .ok (.accepted value) ∨ rule.check value = .error (.longNumber none) := by
  have fails (kind : RejectionKind) (message : String → String) :=
    rejectAs_of_not_isWritable unwritable kind message
  by_cases kind : value.kind = .text
  · obtain ⟨brand, reference, rfl⟩ := Value.kind_eq_text_iff.mp kind
    rw [check]
    split
    · exact Or.inr (fails _ _)
    · split
      · exact Or.inl rfl
      · exact Or.inr (fails _ _)
  · exact Or.inr ((check_of_kind kind rule).trans (fails _ _))

theorem check_accepted_iff {rule : Rule} {value accepted : Value} :
    rule.check value = .ok (.accepted accepted) ↔ accepted = value ∧
      ∃ brand reference extension, value = .text brand reference ∧
        EndsIn reference.toList extension ∧ rule.recognizes extension = true := by
  constructor
  · intro checked
    by_cases kind : value.kind = .text
    · obtain ⟨brand, reference, rfl⟩ := Value.kind_eq_text_iff.mp kind
      rw [check] at checked
      split at checked
      · exact absurd checked (rejectAs_ne_accepted _ _ _ _)
      next extension found =>
        split at checked
        next recognized =>
          cases checked
          exact ⟨rfl, _, _, _, rfl, extension?_eq_some_iff.mp found, recognized⟩
        · exact absurd checked (rejectAs_ne_accepted _ _ _ _)
    · rw [check_of_kind kind] at checked
      exact absurd checked (rejectAs_ne_accepted _ _ _ _)
  · rintro ⟨rfl, brand, reference, extension, rfl, ends, recognized⟩
    have found := extension?_eq_some_iff.mpr ends
    simp only [check, found, recognized, if_true]

/-- What a rule accepts is a text, which it returns as it is. -/
theorem text_of_check_accepted {rule : Rule} {value accepted : Value}
    (checked : rule.check value = .ok (.accepted accepted)) :
    accepted = value ∧ ∃ brand content, value = .text brand content := by
  obtain ⟨unchanged, brand, reference, extension, text, -, -⟩ := check_accepted_iff.mp checked
  exact ⟨unchanged, brand, reference, text⟩

/-- The value is a text that ends in one of the extensions. -/
def Depicts (extensions : Value) (caseSensitive : Bool) (value : Value) : Prop :=
  ∃ brand reference extension, value = .text brand reference ∧
    EndsIn reference.toList extension ∧ Listed extensions caseSensitive extension

section
variable {extensions caseSensitive typeName : Value} {rule : Rule}

theorem depicts_iff_recognizes (built : build extensions caseSensitive typeName = .ok rule)
    (brand : Option String) {reference : String} {extension : List Char}
    (ends : EndsIn reference.toList extension) :
    Depicts extensions caseSensitive.truthy (.text brand reference) ↔
      rule.recognizes extension = true := by
  rw [recognizes_iff_listed built ends.nonempty]
  constructor
  · rintro ⟨_, _, other, same, otherEnds, listed⟩
    cases same
    rwa [ends.unique otherEnds]
  · intro listed
    exact ⟨brand, reference, extension, rfl, ends, listed⟩

/-- A rule that was built, with a name that can be written, rejects what is no text for its type,
accepts unchanged the texts that end in one of the extensions it was built from, and rejects every
other text as no image, saying that it has no extension where that is so. -/
theorem check_exact (built : build extensions caseSensitive typeName = .ok rule)
    (writable : typeName.isWritable = true) (value : Value) :
    ((∃ message, rule.check value = .ok (.rejected .wrongBaseType message)) ↔
        value.kind ≠ .text) ∧
      (∀ accepted, rule.check value = .ok (.accepted accepted) ↔
        accepted = value ∧ Depicts extensions caseSensitive.truthy value) ∧
      ∀ brand reference, value = .text brand reference →
        ¬ Depicts extensions caseSensitive.truthy value →
        ∃ message, rule.check value = .ok (.rejected .notRecognizedImage message) ∧
          (noExtensionEnding.toList <:+ message.toList ↔
            ∀ extension, ¬ EndsIn reference.toList extension) := by
  obtain ⟨verdict, checked, answers⟩ :=
    check_answers ((typeName_of_build built).symm ▸ writable) value
  rw [checked]
  cases answers with
  | wrongType message kind =>
    have foreign : ¬ Depicts extensions caseSensitive.truthy value := by
      rintro ⟨_, _, _, rfl, -⟩
      exact kind rfl
    refine ⟨by simp [kind], fun accepted => by simp [foreign], fun brand reference text _ => ?_⟩
    exact absurd (text ▸ rfl) kind
  | @image brand reference extension ends recognized =>
    have depicts := (depicts_iff_recognizes built brand ends).mpr recognized
    refine ⟨by simp [Value.kind], fun accepted => by simp [depicts, eq_comm], ?_⟩
    exact fun _ _ _ others => absurd depicts others
  | @unlisted brand reference extension message ends unrecognized otherwise =>
    have foreign : ¬ Depicts extensions caseSensitive.truthy (.text brand reference) := by
      simp [depicts_iff_recognizes built brand ends, unrecognized]
    refine ⟨by simp [Value.kind], fun accepted => by simp [foreign], ?_⟩
    rintro _ _ ⟨⟩ -
    exact ⟨message, rfl, iff_of_false otherwise fun none => none extension ends⟩
  | @extensionless brand reference message none ending =>
    have foreign : ¬ Depicts extensions caseSensitive.truthy (.text brand reference) := by
      rintro ⟨_, _, extension, same, ends, -⟩
      cases same
      exact none extension ends
    refine ⟨by simp [Value.kind], fun accepted => by simp [foreign], ?_⟩
    rintro _ _ ⟨⟩ -
    exact ⟨message, rfl, iff_of_true ending none⟩

/-- A rule built from `.PNG` and a value that counts as false accepts a small `png` in a folder
whose name has a dot of its own. -/
theorem check_exact_of_folder :
    let extensions := Value.list none [.ofText ".PNG", .bool false]
    let photo := Value.ofText "my.photos/cat.png"
    build extensions .null (.ofText "Image") = .ok ⟨["png"], false, .ofText "Image"⟩ ∧
      Depicts extensions false photo ∧
      (⟨["png"], false, .ofText "Image"⟩ : Rule).check photo = .ok (.accepted photo) := by
  intro extensions photo
  have built : build extensions .null (.ofText "Image") =
      .ok ⟨["png"], false, .ofText "Image"⟩ := by rfl
  have ends : EndsIn "my.photos/cat.png".toList "png".toList :=
    ⟨by decide, by decide, by decide, "my.photos/cat".toList, by decide⟩
  have depicts : Depicts extensions false photo :=
    ⟨none, _, _, rfl, ends, _, rfl, .ofText ".PNG", List.mem_cons_self, rfl, by decide⟩
  exact ⟨built, depicts, ((check_exact built rfl photo).2.1 photo).mpr ⟨rfl, depicts⟩⟩

end

end Image.Rule

end CustomScalars
