import CustomScalars.Proofs.Definition.Drafts
import CustomScalars.Proofs.Execution.Answering
import CustomScalars.Proofs.Table

/-!
# Variables of valid requests

What a variable is bound to is what was supplied for it, coerced to its declared type; a variable
without a binding had nothing supplied. In a valid request every variable that is used is declared
once, with a type that fits where it is used, so that a value of the scalar type is read by the
scalar itself.
-/
namespace CustomScalars.Execution

/-! ### Coercion -/

section
variable {definition : Definition} {supplied bindings : Table Value}

/-- A declaration that is coerced without errors binds what was supplied, or nothing if nothing
was. -/
theorem coerceVariable_eq_nil {declaration : VariableDeclaration} {given bound : Option Value}
    (errorless : coerceVariable definition declaration given = (bound, [])) :
    (given = none ∧ bound = none) ∨ ∃ value coerced, given = some value ∧ bound = some coerced ∧
      coerceInput definition declaration.type [] value = (coerced, []) := by
  cases given with
  | none =>
    simp only [coerceVariable] at errorless
    split at errorless
    · cases errorless
    · cases errorless
      exact Or.inl ⟨rfl, rfl⟩
  | some value =>
    simp only [coerceVariable] at errorless
    split at errorless
    · cases errorless
    · obtain ⟨rfl, none⟩ := Prod.mk.inj errorless
      refine Or.inr ⟨value, _, rfl, rfl, ?_⟩
      exact Prod.ext rfl (List.map_eq_nil_iff.mp none)

theorem coerceDeclarations_cons_eq_nil {declaration : VariableDeclaration}
    {rest : List VariableDeclaration}
    (errorless : coerceDeclarations definition supplied (declaration :: rest) = (bindings, [])) :
    ∃ bound later,
      coerceVariable definition declaration (supplied.lookup declaration.name) = (bound, []) ∧
      coerceDeclarations definition supplied rest = (later, []) ∧
      bindings = (bound.toList.map fun value => (declaration.name, value)) ++ later := by
  simp only [coerceDeclarations, Prod.mk.injEq, List.append_eq_nil_iff] at errorless
  obtain ⟨rfl, first, others⟩ := errorless
  exact ⟨_, _, Prod.ext rfl first, Prod.ext rfl others, rfl⟩

/-- A binding comes from a declaration of its name, by coercion of what was supplied. -/
theorem exists_of_lookup_bindings {declarations : List VariableDeclaration}
    (errorless : coerceDeclarations definition supplied declarations = (bindings, []))
    {name : String} {coerced : Value} (bound : bindings.lookup name = some coerced) :
    ∃ declaration ∈ declarations, declaration.name = name ∧
      ∃ value, supplied.lookup name = some value ∧
        coerceInput definition declaration.type [] value = (coerced, []) := by
  -- The first declaration that binds the name is the one that counts.
  induction declarations generalizing bindings with
  | nil =>
    cases errorless
    cases bound
  | cons declaration rest ih =>
    obtain ⟨own, later, first, others, rfl⟩ := coerceDeclarations_cons_eq_nil errorless
    have inRest (bound : later.lookup name = some coerced) :
        ∃ other ∈ declaration :: rest, other.name = name ∧
          ∃ value, supplied.lookup name = some value ∧
            coerceInput definition other.type [] value = (coerced, []) := by
      obtain ⟨other, member, found⟩ := ih others bound
      exact ⟨other, List.mem_cons_of_mem _ member, found⟩
    rcases coerceVariable_eq_nil first with ⟨-, rfl⟩ | ⟨value, result, given, rfl, coerces⟩
    · exact inRest bound
    · simp only [Option.toList_some, List.map_cons, List.map_nil, List.singleton_append,
        Table.lookup_cons] at bound
      split at bound
      next here =>
        cases bound
        subst here
        exact ⟨declaration, List.mem_cons_self, rfl, value, given, coerces⟩
      next => exact inRest bound

/-- A declared variable without a binding had nothing supplied. -/
theorem lookup_supplied_of_unbound {declarations : List VariableDeclaration}
    (errorless : coerceDeclarations definition supplied declarations = (bindings, []))
    {declaration : VariableDeclaration} (member : declaration ∈ declarations)
    (unbound : bindings.lookup declaration.name = none) :
    supplied.lookup declaration.name = none := by
  induction declarations generalizing bindings with
  | nil => cases member
  | cons first rest ih =>
    obtain ⟨own, later, coerces, others, rfl⟩ := coerceDeclarations_cons_eq_nil errorless
    rw [List.lookup_append, Option.or_eq_none_iff] at unbound
    rcases List.mem_cons.mp member with rfl | present
    · rcases coerceVariable_eq_nil coerces with ⟨absent, -⟩ | ⟨value, result, given, rfl, -⟩
      · exact absent
      · simp at unbound
    · exact ih others present unbound.2

/-- What is wrong with one variable is wrong with all of them. -/
theorem coerceDeclarations_ne_nil {declarations : List VariableDeclaration}
    {declaration : VariableDeclaration} (member : declaration ∈ declarations)
    (wrong : (coerceVariable definition declaration (supplied.lookup declaration.name)).2 ≠ []) :
    (coerceDeclarations definition supplied declarations).2 ≠ [] := by
  intro none
  induction declarations with
  | nil => cases member
  | cons first rest ih =>
    simp only [coerceDeclarations, List.append_eq_nil_iff] at none
    rcases List.mem_cons.mp member with rfl | present
    · exact wrong none.1
    · exact ih present none.2

end

/-! ### Types -/

section
variable {draft : Draft} {definition : Definition} {value : Value}

theorem lookup_enumerationValues (made : draft.MadeInto definition) :
    enumerationValues.lookup definition.name = none := by
  have free : beginsReserved definition.name = false := by
    have unreserved := made.unreserved
    rw [Definition.isReserved, Bool.or_eq_false_iff] at unreserved
    exact unreserved.2
  simp [enumerationValues, List.lookup_cons, beq_false_of_reserved free "__TypeKind" rfl,
    beq_false_of_reserved free "__DirectiveLocation" rfl]

/-- A value of the scalar type is read by the scalar. -/
theorem coerceNamed_own (made : draft.MadeInto definition) (position : List Nat) (value : Value) :
    coerceNamed definition definition.name position value =
      coerceScalar definition position value := by
  have noText : definition.name ≠ stringTypeName := fun same =>
    made.name_not_mem_builtinNames (same ▸ by decide)
  have noFlag : definition.name ≠ booleanTypeName := fun same =>
    made.name_not_mem_builtinNames (same ▸ by decide)
  unfold coerceNamed
  rw [if_neg noText, if_neg noFlag, lookup_enumerationValues made]

theorem coerceScalar_of_rejected {fault : Fault} (position : List Nat)
    (rejected : definition.engineParseValue value = .error fault) :
    ∃ error, coerceScalar definition position value = .error error := by
  simp only [coerceScalar, rejected]
  split <;> exact ⟨_, rfl⟩

/-- Where no error comes of it, a value of a type that fits the scalar type is one that the scalar
accepts, or nothing. -/
theorem coerceInput_of_fits (made : draft.MadeInto definition) {type : TypeRef}
    (fits : type.fits (.named definition.name) = true) {position : List Nat} {coerced : Value}
    (errorless : coerceInput definition type position value = (coerced, [])) :
    (coerced = .null ∧ (value.isNull = true ∨ value.isUndefined = true)) ∨
      definition.engineParseValue value = .ok coerced := by
  -- A type that fits is the scalar type itself, with or without marks that forbid null.
  induction type generalizing position with
  | named name =>
    obtain rfl : name = definition.name := by simpa [TypeRef.fits] using fits
    simp only [coerceInput] at errorless
    split at errorless
    next nothing =>
      cases errorless
      exact Or.inl ⟨rfl, by simpa using nothing⟩
    next =>
      rw [coerceNamed_own made] at errorless
      split at errorless
      next accepted =>
        cases errorless
        simp only [coerceScalar] at accepted
        split at accepted
        next result parsed =>
          split at accepted
          · cases accepted
          · cases accepted
            exact Or.inr parsed
        next =>
          split at accepted <;> cases accepted
      next => cases errorless
  | list item ih => simp [TypeRef.fits] at fits
  | nonNull inner ih =>
    simp only [coerceInput] at errorless
    split at errorless
    next => cases errorless
    next => exact ih (by simpa [TypeRef.fits] using fits) errorless

theorem fits_of_fits_nonNull {type : TypeRef} {name : String}
    (fits : type.fits (.nonNull (.named name)) = true) : type.fits (.named name) = true := by
  cases type with
  | named other => simp [TypeRef.fits] at fits
  | list item => simp [TypeRef.fits] at fits
  | nonNull inner => simpa [TypeRef.fits] using fits

end

/-! ### Declarations of used variables -/

section
variable {declarations : List VariableDeclaration}

theorem names_nodup_of_unrepeated (unrepeated : repeatedDeclarations declarations = []) :
    (declarations.map VariableDeclaration.name).Nodup := by
  simp only [repeatedDeclarations, List.map_eq_nil_iff, List.filter_eq_nil_iff,
    List.mem_eraseDups, decide_eq_true_eq, Nat.not_lt] at unrepeated
  refine List.nodup_iff_count_le_one.mpr fun name => ?_
  by_cases member : name ∈ declarations.map VariableDeclaration.name
  · exact unrepeated name member
  · rw [List.count_eq_zero_of_not_mem member]
    exact Nat.zero_le 1

theorem declaredType?_of_mem (distinct : (declarations.map VariableDeclaration.name).Nodup)
    {declaration : VariableDeclaration} (member : declaration ∈ declarations) :
    declaredType? declarations declaration.name = some declaration.type := by
  have reversed : (declarations.reverse.map VariableDeclaration.name).Nodup := by
    rw [List.map_reverse]
    exact List.nodup_reverse.mpr distinct
  rw [declaredType?, Table.find?_of_nodup reversed (List.mem_reverse.mpr member)]
  rfl

end

/-- The variable is declared by this declaration and by no other, and the type fits the place. -/
structure DeclaredFor (request : Request) (use : VariableUse) (declaration : VariableDeclaration) :
    Prop where
  member : declaration ∈ request.declarations
  name : declaration.name = use.name
  only : ∀ other ∈ request.declarations, other.name = use.name → other = declaration
  fits : ∀ place, use.place = some place → declaration.type.fits place = true

theorem exists_declaredFor {definition : Definition} {request : Request}
    (valid : validationErrors definition request = []) {use : VariableUse}
    (used : use ∈ request.uses) : ∃ declaration, DeclaredFor request use declaration := by
  simp only [validationErrors, declarationErrors, useErrors, List.append_eq_nil_iff] at valid
  obtain ⟨⟨⟨⟨unrepeated, known⟩, -⟩, -⟩, ⟨declared, -⟩, placed⟩ := valid
  have distinct := names_nodup_of_unrepeated unrepeated
  have named : use.name ∈ request.declarations.map VariableDeclaration.name := by
    simp only [undeclaredUses, List.map_eq_nil_iff, List.filter_eq_nil_iff] at declared
    simpa using declared use used
  obtain ⟨declaration, member, name⟩ := List.mem_map.mp named
  refine ⟨declaration, member, name, fun other present same =>
    List.inj_on_of_nodup_map distinct present member (same.trans name.symm),
    fun place expected => ?_⟩
  -- The type is one of the schema, so its place was looked at and found to be right.
  have typed := List.filterMap_eq_nil_iff.mp known declaration member
  have present : declaration.type.innermost ∈ (request.types definition.name).names := by
    rw [declarationError?] at typed
    cases found : (request.types definition.name).lookup declaration.type.innermost with
    | none => simp [found] at typed
    | some kind => exact Table.lookup_isSome_iff.mp (found ▸ rfl)
  have right := List.filterMap_eq_nil_iff.mp placed use used
  rw [misplacedUse?, ← name, declaredType?_of_mem distinct member, expected] at right
  simp only [List.contains_eq_mem, present, decide_true, Bool.true_and] at right
  simpa using right

end CustomScalars.Execution
