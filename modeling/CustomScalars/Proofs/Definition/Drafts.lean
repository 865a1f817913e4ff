import CustomScalars.Definition.Call
import CustomScalars.Proofs.Effect

/-!
# What a draft is made into

A definition keeps what its draft offered: the name, which was found to be one that a scalar can
have, the function for values that leave the server, and both functions for values that come in or
neither.
-/
namespace CustomScalars

namespace Definition

theorem checkName_eq_ok_iff {given : Value} {brand : Option String} {name : String} :
    checkName given = .ok (brand, name) ↔
      given = .text brand name ∧ isName name.toList = true ∧ isReserved name = false := by
  cases given with
  | text ownBrand ownName =>
    simp only [checkName, Value.text.injEq]
    constructor
    · intro checked
      split at checked
      next named =>
        split at checked
        next reserved => cases checked
        next free =>
          cases checked
          exact ⟨⟨rfl, rfl⟩, named, by simpa using free⟩
      next unnamed => cases checked
    · rintro ⟨⟨rfl, rfl⟩, named, unreserved⟩
      simp [named, unreserved]
  | _ => simp [checkName]

theorem checkSerialize_eq_ok {name : Value} {slot : Slot} {function : Callable}
    (checked : checkSerialize name slot = .ok function) : slot = .callable function := by
  cases slot with
  | callable own => cases checked; rfl
  | absent => cases checked
  | plain value => cases checked

theorem checkInput_eq_ok {name : Value} {parseValue parseLiteral : Slot}
    {input : Option InputFunctions}
    (checked : checkInput name parseValue parseLiteral = .ok input) :
    (parseValue = .absent ∧ parseLiteral = .absent ∧ input = none) ∨
      ∃ onValue onLiteral, parseValue = .callable onValue ∧ parseLiteral = .callable onLiteral ∧
        input = some ⟨onValue.onValue, onLiteral.onLiteral⟩ := by
  unfold checkInput at checked
  split at checked
  · cases checked
    exact Or.inl ⟨rfl, rfl, rfl⟩
  next onValue onLiteral =>
    cases checked
    exact Or.inr ⟨onValue, onLiteral, rfl, rfl, rfl⟩
  · split at checked <;> cases checked

end Definition

/-- The definition has the parts of the draft, and they are such as a definition can have. -/
structure Draft.MadeInto (draft : Draft) (definition : Definition) : Prop where
  name : draft.name = some definition.nameValue
  isName : Definition.isName definition.name.toList = true
  unreserved : Definition.isReserved definition.name = false
  serialize : ∃ function, draft.serialize = .callable function ∧
    definition.serialize = function.onValue
  /-- The functions for input are given both or not at all. -/
  input : (draft.parseValue = .absent ∧ draft.parseLiteral = .absent ∧ definition.input = none) ∨
    ∃ onValue onLiteral, draft.parseValue = .callable onValue ∧
      draft.parseLiteral = .callable onLiteral ∧
      definition.input = some ⟨onValue.onValue, onLiteral.onLiteral⟩

namespace Definition

theorem madeInto_of_ofDraft {draft : Draft} {definition : Definition}
    (made : ofDraft draft = .ok definition) : draft.MadeInto definition := by
  unfold ofDraft at made
  split at made
  · cases made
  next given offered =>
    obtain ⟨⟨brand, name⟩, checked, made⟩ := bind_eq_ok_iff.mp made
    obtain ⟨function, serializes, made⟩ := bind_eq_ok_iff.mp made
    obtain ⟨input, paired, made⟩ := bind_eq_ok_iff.mp made
    cases made
    obtain ⟨rfl, named, unreserved⟩ := checkName_eq_ok_iff.mp checked
    exact ⟨offered, named, unreserved, ⟨function, checkSerialize_eq_ok serializes, rfl⟩,
      checkInput_eq_ok paired⟩

end Definition

section
variable {draft : Draft} {definition : Definition}

theorem Draft.MadeInto.name_ne_empty (made : draft.MadeInto definition) : definition.name ≠ "" := by
  intro empty
  have named := made.isName
  rw [empty] at named
  exact absurd named (by decide)

theorem Draft.MadeInto.nameValue_truthy (made : draft.MadeInto definition) :
    definition.nameValue.truthy = true := by
  simp [Definition.nameValue, Value.truthy, made.name_ne_empty]

theorem Draft.MadeInto.name_not_mem_builtinNames (made : draft.MadeInto definition) :
    definition.name ∉ Definition.builtinNames := by
  intro member
  have unreserved := made.unreserved
  simp [Definition.isReserved, member] at unreserved

end

end CustomScalars
