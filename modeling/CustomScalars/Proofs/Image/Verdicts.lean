import CustomScalars.Proofs.Literal

/-!
# Every value gets a verdict

A rejection needs a message with something to read in it, and a rule writes its messages from its
own name and from what it is given, which may be blank. It never fails for that: the words around
what is quoted can be read. So a rule answers every value, and the parser that is made from it every
literal, with an acceptance or with a rejection, and the kind of a rejection tells where it was
made. Only a name with a number in it that is too long to be written makes a rejection fail.
-/
namespace CustomScalars

/-- There is something to read in the message. -/
def Readable (message : String) : Prop := ∃ char ∈ message.toList, Text.isWhitespace char = false

/-- The outcome is a verdict, and if it is a rejection, then one of these kinds with a message that
can be read. It fails only in the place of a rejection in one of these names. -/
inductive Judged (names : List Value) (kinds : List RejectionKind) : Outcome → Prop where
  | accepted (value : Value) : Judged names kinds (.ok (.accepted value))
  | rejected {kind : RejectionKind} {message : String} : kind ∈ kinds → Readable message →
      Judged names kinds (.ok (.rejected kind message))
  | unwritten {name : Value} : name ∈ names → name.isWritable = false →
      Judged names kinds (.error (.longNumber none))

section
variable {names namesToo : List Value} {kinds others : List RejectionKind} {kind : RejectionKind}
  {message : String}

theorem Judged.mono {outcome : Outcome} (judged : Judged names kinds outcome)
    (subset : kinds ⊆ others) (namesSubset : names ⊆ namesToo) :
    Judged namesToo others outcome := by
  cases judged with
  | accepted value => exact .accepted value
  | rejected member readable => exact .rejected (subset member) readable
  | unwritten member unwritable => exact .unwritten (namesSubset member) unwritable

/-- Where every name can be written there is a verdict. -/
theorem Judged.exists_verdict {outcome : Outcome} (judged : Judged names kinds outcome)
    (writable : ∀ name ∈ names, name.isWritable = true) : ∃ verdict, outcome = .ok verdict := by
  cases judged with
  | accepted value => exact ⟨_, rfl⟩
  | rejected member readable => exact ⟨_, rfl⟩
  | unwritten member unwritable =>
    rw [writable _ member] at unwritable
    cases unwritable

/-- A message that was let through can be read. -/
theorem readable_of_reject {given : Value}
    (rejects : reject kind given = .ok (.rejected kind message)) : Readable message := by
  unfold reject at rejects
  split at rejects
  next brand text =>
    split at rejects
    · cases rejects
    next visible =>
      cases rejects
      simpa [Readable, Text.isBlank] using visible
  · cases rejects

theorem judged_rejectAs {typeName : Value} {write : String → String} (named : typeName ∈ names)
    (listed : kind ∈ kinds) (rejects : typeName.isWritable = true → ∃ message,
      rejectAs typeName kind write = .ok (.rejected kind message)) :
    Judged names kinds (rejectAs typeName kind write) := by
  cases writable : typeName.isWritable with
  | true =>
    obtain ⟨message, rejects⟩ := rejects writable
    rw [rejects]
    rw [rejectAs_of_isWritable writable] at rejects
    exact .rejected listed (readable_of_reject rejects)
  | false =>
    rw [rejectAs_of_not_isWritable writable]
    exact .unwritten named writable

end

namespace Image.Rule

open Literal (Denotes)

/-- The reasons that a rule has for rejections. -/
def kinds : List RejectionKind := [.wrongBaseType, .notRecognizedImage]

theorem judged_check (rule : Rule) (value : Value) :
    Judged [rule.typeName] kinds (rule.check value) := by
  have named := List.mem_singleton_self rule.typeName
  by_cases kind : value.kind = .text
  · obtain ⟨brand, reference, rfl⟩ := Value.kind_eq_text_iff.mp kind
    have listed : RejectionKind.notRecognizedImage ∈ kinds := by simp [kinds]
    rw [check]
    split
    · refine judged_rejectAs named listed fun writable => ?_
      obtain ⟨message, rejects, -⟩ := rejectNoExtension_eq writable reference
      exact ⟨message, rejects⟩
    next extension found =>
      split
      · exact .accepted _
      · refine judged_rejectAs named listed fun writable => ?_
        obtain ⟨message, rejects, -⟩ := rejectExtension_eq writable extension
        exact ⟨message, rejects⟩
  · have listed : RejectionKind.wrongBaseType ∈ kinds := by simp [kinds]
    rw [check_of_kind kind]
    exact judged_rejectAs named listed fun writable => rejectNoText_eq writable value

/-- A rule, whatever it is called, gives every value a verdict, and so does the parser made from it
for every literal where the bindings are a record if they are anything; only that a rejection fails
where the name that it is made in cannot be written. Every rejection has a message that can be read.
The rule rejects for its own two reasons, and the parser for the kind of literal besides, which it
does exactly where the literal stands for no value. -/
theorem verdict_total (rule : Rule) {bindings : Value} (recorded : bindings.truthy = true →
      ∃ brand entries, bindings = .record brand entries) (typeName : Value) :
    (∀ value, Judged [rule.typeName] kinds (rule.check value)) ∧
    ∀ literal, Judged [rule.typeName, typeName] (.unsupportedLiteralKind :: kinds)
        (rule.parseLiteral typeName literal bindings) ∧
      ((∃ message, rule.parseLiteral typeName literal bindings =
          .ok (.rejected .unsupportedLiteralKind message)) ↔
        typeName.isWritable = true ∧ ∀ value, ¬ Denotes bindings literal value) := by
  refine ⟨rule.judged_check, fun literal => ?_⟩
  unfold parseLiteral
  by_cases something : ∃ value, Denotes bindings literal value
  · obtain ⟨value, denotes⟩ := something
    have judged := rule.judged_check value
    rw [parseTextLiteral_of_denotes denotes]
    refine ⟨judged.mono (List.subset_cons_self _ _) (by simp),
      iff_of_false ?_ fun none => none.2 value denotes⟩
    -- The rule itself has no such reason.
    rintro ⟨message, rejects⟩
    rw [rejects] at judged
    cases judged with
    | rejected member readable => simp [kinds] at member
  · have nothing := not_exists.mp something
    rw [parseTextLiteral_of_not_denotes recorded nothing]
    refine ⟨judged_rejectAs (by simp) List.mem_cons_self
      fun writable => ⟨_, rejectAs_refusal writable literal⟩, ?_⟩
    constructor
    · rintro ⟨message, rejects⟩
      refine ⟨?_, nothing⟩
      by_contra unwritable
      rw [rejectAs_of_not_isWritable (by simpa using unwritable)] at rejects
      cases rejects
    · rintro ⟨writable, -⟩
      exact ⟨_, rejectAs_refusal writable literal⟩

/-- A rule and a scalar with blank names, a record that binds a variable to white space, and one
that it binds to the undefined value. -/
theorem verdict_total_of_blank :
    let rule : Rule := ⟨["png"], false, .ofText " "⟩
    let bindings := Value.ofEntries [("photo", .ofText "\t"), ("gone", .undefined)]
    (bindings.truthy = true → ∃ brand entries, bindings = .record brand entries) ∧
      (∃ verdict, rule.check (.ofText "") = .ok verdict) ∧
      (∃ verdict, rule.parseLiteral (.ofText "") (.variableRef "photo") bindings = .ok verdict) ∧
      ∃ message, rule.parseLiteral (.ofText "") (.variableRef "gone") bindings =
        .ok (.rejected .unsupportedLiteralKind message) := by
  intro rule bindings
  have recorded : bindings.truthy = true → ∃ brand entries, bindings = .record brand entries :=
    fun _ => ⟨none, _, rfl⟩
  have unbound : ∀ value, ¬ Denotes bindings (.variableRef "gone") value := by
    intro value denotes
    obtain ⟨bound, defined⟩ := boundValue_of_denotes denotes
    cases bound
    cases defined
  obtain ⟨checks, parses⟩ := verdict_total rule recorded (.ofText "")
  have writable : ∀ name ∈ [rule.typeName, .ofText ""], name.isWritable = true := by simp [rule]
  exact ⟨recorded, (checks _).exists_verdict (by simp [rule]),
    (parses (.variableRef "photo")).1.exists_verdict writable,
    (parses (.variableRef "gone")).2.mpr ⟨rfl, unbound⟩⟩

/-- A rule can have the name of a number that is too long to be written, and then it fails on
whatever it does not accept. -/
theorem check_fails_for_long_name :
    let name := Value.longInt
    let rule : Rule := ⟨["png"], false, name⟩
    build (.ofTexts ["png"]) .null name = .ok rule ∧
      ∀ verdict, rule.check (.int none 5) ≠ .ok verdict := by
  intro name rule
  refine ⟨rfl, fun verdict answered => ?_⟩
  rw [check_of_kind (by decide), rejectNoText, rejectAs_of_not_isWritable Value.isWritable_longInt]
    at answered
  cases answered

end Image.Rule

end CustomScalars
