import CustomScalars.Proofs.Definition.Drafts

/-!
# Names of scalars

A scalar is named by a text: a letter or an underscore, and then letters, digits and underscores.
Names that begin with two underscores are taken, and so are those of the scalars that every schema
has. The check of a name keeps to this with one exception. A line break at the very end is not
looked at, so a name with a line break behind it passes for a name, and it is not taken even where
the name itself would be.
-/
namespace CustomScalars

namespace Definition

def IsLetter (char : Char) : Prop := ('A' ≤ char ∧ char ≤ 'Z') ∨ ('a' ≤ char ∧ char ≤ 'z')

def IsDigit (char : Char) : Prop := '0' ≤ char ∧ char ≤ '9'

/-- A letter or an underscore, and then any number of letters, digits and underscores. -/
def Grammatical : List Char → Prop
  | [] => False
  | first :: rest => (IsLetter first ∨ first = '_') ∧
      ∀ char ∈ rest, IsLetter char ∨ IsDigit char ∨ char = '_'

instance (char : Char) : Decidable (IsLetter char) := inferInstanceAs (Decidable (_ ∨ _))

instance (char : Char) : Decidable (IsDigit char) := inferInstanceAs (Decidable (_ ∧ _))

instance : (text : List Char) → Decidable (Grammatical text)
  | [] => inferInstanceAs (Decidable False)
  -- The characters are gone through in the text and not in the whole of Unicode.
  | _ :: rest => @instDecidableAnd _ _ inferInstance (List.decidableBAll _ rest)

/-- The value is a name that the grammar has and that is not taken. -/
def IsFreeName (value : Value) : Prop :=
  ∃ brand name, value = .text brand name ∧ Grammatical name.toList ∧
    ¬ ['_', '_'] <+: name.toList ∧ name ∉ ["String", "Int", "Float", "Boolean", "ID"]

/-- The value is a text of the grammar with one line break behind it. -/
def IsBrokenName (value : Value) : Prop :=
  ∃ brand name stem, value = .text brand name ∧ name.toList = stem ++ ['\n'] ∧
    Grammatical stem ∧ ¬ ['_', '_'] <+: stem

theorem isAlpha_iff {char : Char} : char.isAlpha = true ↔ IsLetter char := by
  have ranges : char.isAlpha = (decide ('A' ≤ char ∧ char ≤ 'Z') ||
      (decide ('a' ≤ char) && decide (char ≤ 'z'))) := rfl
  simp [ranges, IsLetter]

theorem isDigit_iff {char : Char} : char.isDigit = true ↔ IsDigit char := by
  have range : char.isDigit = (decide ('0' ≤ char) && decide (char ≤ '9')) := rfl
  simp [range, IsDigit]

theorem isNameStart_iff {char : Char} : isNameStart char = true ↔ IsLetter char ∨ char = '_' := by
  simp [isNameStart, isAlpha_iff]

theorem isNamePart_iff {char : Char} :
    isNamePart char = true ↔ IsLetter char ∨ IsDigit char ∨ char = '_' := by
  simp [isNamePart, Char.isAlphanum, isAlpha_iff, isDigit_iff, or_assoc]

theorem isName_iff {text : List Char} :
    isName text = true ↔ Grammatical (withoutFinalBreak text) := by
  unfold isName
  cases withoutFinalBreak text with
  | nil => simp [Grammatical]
  | cons first rest => simp [Grammatical, isNameStart_iff, isNamePart_iff]

theorem Grammatical.no_break {text : List Char} (grammatical : Grammatical text) :
    '\n' ∉ text := by
  have noPart : ¬ (IsLetter '\n' ∨ IsDigit '\n' ∨ '\n' = '_') := by
    rw [← isNamePart_iff]
    decide
  cases text with
  | nil => exact List.not_mem_nil
  | cons first rest =>
    obtain ⟨starts, parts⟩ := grammatical
    intro member
    apply noPart
    rcases List.mem_cons.mp member with rfl | later
    · rcases starts with letter | underscore
      · exact Or.inl letter
      · exact Or.inr (Or.inr underscore)
    · exact parts '\n' later

/-- The line break that is not looked at is at the end of the text or it is not there. -/
theorem grammatical_withoutFinalBreak_iff {text : List Char} :
    Grammatical (withoutFinalBreak text) ↔
      Grammatical text ∨ ∃ stem, text = stem ++ ['\n'] ∧ Grammatical stem := by
  unfold withoutFinalBreak
  split
  next broken =>
    obtain ⟨stem, rfl⟩ := List.getLast?_eq_some_iff.mp broken
    have ungrammatical : ¬ Grammatical (stem ++ ['\n']) := by
      intro grammatical
      exact grammatical.no_break (by simp)
    simp [ungrammatical]
  next unbroken =>
    constructor
    · exact Or.inl
    · rintro (grammatical | ⟨stem, rfl, -⟩)
      · exact grammatical
      · simp at unbroken

theorem isReserved_eq_false_iff {name : String} :
    isReserved name = false ↔
      ¬ ['_', '_'] <+: name.toList ∧ name ∉ ["String", "Int", "Float", "Boolean", "ID"] := by
  have builtin : builtinNames.Perm ["String", "Int", "Float", "Boolean", "ID"] := by decide
  have reserved : isReserved name = true ↔
      name ∈ builtinNames ∨ ['_', '_'] <+: name.toList := by
    simp only [isReserved, Bool.or_eq_true, List.contains_iff_mem, List.isPrefixOf_iff_prefix]
  rw [← Bool.not_eq_true, reserved, builtin.mem_iff, not_or, and_comm]

/-- None of the names that are taken ends in a line break, and neither do two underscores. -/
theorem isReserved_eq_false_of_broken {name : String} {stem : List Char}
    (broken : name.toList = stem ++ ['\n']) (begins : ¬ ['_', '_'] <+: stem) :
    isReserved name = false := by
  rw [isReserved_eq_false_iff, broken]
  constructor
  · intro prefixed
    rcases List.prefix_concat_iff.mp prefixed with whole | shorter
    · exact absurd (congrArg List.getLast? whole) (by simp)
    · exact begins shorter
  · intro builtin
    have unbroken : ∀ other ∈ ["String", "Int", "Float", "Boolean", "ID"],
        other.toList.getLast? ≠ some '\n' := by decide
    exact unbroken name builtin (by simp [broken])

theorem checkName_iff {given : Value} :
    (∃ checked, checkName given = .ok checked) ↔ IsFreeName given ∨ IsBrokenName given := by
  constructor
  · rintro ⟨⟨brand, name⟩, checked⟩
    obtain ⟨rfl, named, unreserved⟩ := checkName_eq_ok_iff.mp checked
    rw [isReserved_eq_false_iff] at unreserved
    rcases grammatical_withoutFinalBreak_iff.mp (isName_iff.mp named) with
      whole | ⟨stem, broken, grammatical⟩
    · exact Or.inl ⟨brand, name, rfl, whole, unreserved⟩
    · refine Or.inr ⟨brand, name, stem, rfl, broken, grammatical, ?_⟩
      -- What the name begins with it begins with before the line break.
      intro begins
      exact unreserved.1 (broken ▸ begins.trans (List.prefix_append stem ['\n']))
  · rintro (⟨brand, name, rfl, whole, unreserved⟩ | ⟨brand, name, stem, rfl, broken, named, begins⟩)
    · refine ⟨(brand, name), checkName_eq_ok_iff.mpr ⟨rfl, ?_, ?_⟩⟩
      · exact isName_iff.mpr (grammatical_withoutFinalBreak_iff.mpr (Or.inl whole))
      · exact isReserved_eq_false_iff.mpr unreserved
    · refine ⟨(brand, name), checkName_eq_ok_iff.mpr ⟨rfl, ?_, ?_⟩⟩
      · exact isName_iff.mpr (grammatical_withoutFinalBreak_iff.mpr (Or.inr ⟨stem, broken, named⟩))
      · exact isReserved_eq_false_of_broken broken begins

theorem checkName_of_not_text {given : Value} (kind : given.kind ≠ .text) :
    checkName given = .error (Fault.invalidName given).told := by
  cases given with
  | text brand name => exact absurd rfl kind
  | _ => rfl

theorem checkName_eq_error {given : Value} {fault : Fault} (writable : given.isWritable = true)
    (refused : checkName given = .error fault) :
    fault.category = .configuration ∧ fault.scalar = given := by
  by_cases kind : given.kind = .text
  · obtain ⟨brand, name, rfl⟩ := Value.kind_eq_text_iff.mp kind
    simp only [checkName] at refused
    split at refused
    · split at refused
      · cases refused
        exact ⟨rfl, rfl⟩
      · cases refused
    · cases refused
      exact ⟨rfl, rfl⟩
  · rw [checkName_of_not_text kind,
      Fault.told_of_isWritable (.invalidName given) writable] at refused
    cases refused
    exact ⟨rfl, rfl⟩

theorem checkName_of_not_writable {given : Value} (unwritable : given.isWritable = false) :
    checkName given = .error (.longNumber none) := by
  have kind : given.kind ≠ .text := by
    intro text
    obtain ⟨brand, name, rfl⟩ := Value.kind_eq_text_iff.mp text
    cases unwritable
  rw [checkName_of_not_text kind]
  exact congrArg Except.error (if_neg (by simp [Fault.scalar, unwritable]))

end Definition

/-- The functions of the draft are such as a definition can have, so that its name is all that is
left to be checked. -/
structure Draft.Usable (draft : Draft) : Prop where
  serialize : ∃ function, draft.serialize = .callable function
  input : (draft.parseValue = .absent ∧ draft.parseLiteral = .absent) ∨
    ∃ onValue onLiteral, draft.parseValue = .callable onValue ∧
      draft.parseLiteral = .callable onLiteral

namespace Definition

section
variable {draft : Draft} {name : Value}

theorem ofDraft_of_usable (given : draft.name = some name) (usable : draft.Usable) :
    ∃ make : Option String × String → Definition, ofDraft draft = (checkName name).map make := by
  obtain ⟨⟨function, serializes⟩, input⟩ := usable
  have paired : ∃ functions,
      checkInput name draft.parseValue draft.parseLiteral = .ok functions := by
    rcases input with ⟨noValue, noLiteral⟩ | ⟨onValue, onLiteral, value, literal⟩
    · rw [noValue, noLiteral]
      exact ⟨_, rfl⟩
    · rw [value, literal]
      exact ⟨_, rfl⟩
  obtain ⟨functions, paired⟩ := paired
  refine ⟨fun checked => ⟨checked.2, checked.1, draft.description, function.onValue, function.rule,
    functions⟩, ?_⟩
  simp only [ofDraft, given, serializes, paired]
  cases checkName name <;> rfl

theorem exists_ofDraft_iff (given : draft.name = some name) (usable : draft.Usable) :
    (∃ definition, ofDraft draft = .ok definition) ↔ IsFreeName name ∨ IsBrokenName name := by
  obtain ⟨make, made⟩ := ofDraft_of_usable given usable
  rw [← checkName_iff, made]
  cases checkName name <;> simp [Except.map]

/-- A name with a line break behind it is none that the grammar has. -/
theorem IsBrokenName.not_isFreeName {value : Value} (broken : IsBrokenName value) :
    ¬ IsFreeName value := by
  rintro ⟨brand, name, rfl, grammatical, -⟩
  obtain ⟨_, _, stem, ⟨⟩, ends, -⟩ := broken
  rw [ends] at grammatical
  exact grammatical.no_break (by simp)

/-- Where nothing else is wrong with a draft it is made into a definition exactly when its name is
a free one or a text of the grammar with a line break behind it; otherwise there is a configuration
fault with the name as it was given, or a number in the name is too long to be written. So the names
of scalars are the free ones but for that line break. -/
theorem ofDraft_named (given : draft.name = some name) (usable : draft.Usable) :
    ((∃ definition, ofDraft draft = .ok definition) ↔ IsFreeName name ∨ IsBrokenName name) ∧
      (¬ (IsFreeName name ∨ IsBrokenName name) → ∃ fault, ofDraft draft = .error fault ∧
        (name.isWritable = true → fault.category = .configuration ∧ fault.scalar = name) ∧
        (name.isWritable = false → fault = .longNumber none)) ∧
      (((∃ definition, ofDraft draft = .ok definition) ↔ IsFreeName name) ↔
        ¬ IsBrokenName name) := by
  have named := exists_ofDraft_iff given usable
  refine ⟨named, ?_, ?_⟩
  · intro unnamed
    obtain ⟨make, made⟩ := ofDraft_of_usable given usable
    rw [made]
    cases checked : checkName name with
    | ok parts => exact absurd (checkName_iff.mp ⟨parts, checked⟩) unnamed
    | error fault =>
      refine ⟨fault, rfl, fun writable => checkName_eq_error writable checked, fun unwritable => ?_⟩
      rw [checkName_of_not_writable unwritable] at checked
      cases checked
      rfl
  · rw [named]
    constructor
    · intro same broken
      exact broken.not_isFreeName (same.mp (Or.inr broken))
    · intro whole
      exact or_iff_left whole

end

/-- A draft that offers a function for output alone. -/
def outputDraft (name : String) : Draft where
  name := some (.ofText name)
  description := .null
  serialize := .callable (.constant (.ok (.accepted .null)))
  parseValue := .absent
  parseLiteral := .absent

theorem outputDraft_usable (name : String) : (outputDraft name).Usable :=
  ⟨⟨_, rfl⟩, Or.inl ⟨rfl, rfl⟩⟩

/-- One underscore is as good as a letter, and a digit may follow it. -/
theorem ofDraft_named_of_underscore :
    (outputDraft "_9").name = some (.ofText "_9") ∧ (outputDraft "_9").Usable ∧
      ∃ definition, ofDraft (outputDraft "_9") = .ok definition := by
  have usable := outputDraft_usable "_9"
  have free : IsFreeName (.ofText "_9") := ⟨none, "_9", rfl, by decide, by decide, by decide⟩
  exact ⟨rfl, usable, (ofDraft_named rfl usable).1.mpr (Or.inl free)⟩

/-- A name with a line break behind it is no name, and a scalar can have it all the same. -/
theorem ofDraft_names_broken :
    (outputDraft "Photo\n").name = some (.ofText "Photo\n") ∧ (outputDraft "Photo\n").Usable ∧
      ¬ IsFreeName (.ofText "Photo\n") ∧
      ∃ definition, ofDraft (outputDraft "Photo\n") = .ok definition := by
  refine ⟨rfl, outputDraft_usable "Photo\n", ?_, _, rfl⟩
  rintro ⟨brand, name, ⟨⟩, grammatical, -⟩
  exact absurd grammatical (by decide)

end Definition

end CustomScalars
