import CustomScalars.Proofs.Definition.Drafts
import CustomScalars.Proofs.Execution.Answering
import CustomScalars.Proofs.Image.Positions
import CustomScalars.Proofs.Table

/-!
# Fields with fixed values

A selection that asks for a field with a fixed value, under a key of its own, is valid and is
answered from the value alone. Of the values of an image scalar the rule decides: one that it
accepts is shown as it is, and one that it rejects is null with one error, or does not settle where
null is not allowed.
-/
namespace CustomScalars.Execution

/-- The selection asks, without an argument, for a field of this type that resolves to this
value. -/
structure Request.Resolves (request : Request) (selection : Selection) (type : TypeRef)
    (value : Value) : Prop where
  field : ∃ name, (request.fields.find? fun field => field.name == selection.field) =
    some ⟨name, type, value⟩
  fixed : request.echo = none ∨ selection.field ≠ echoName
  argumentless : selection.argument = none

/-! ### Different keys -/

section
variable {selections : List Selection}

theorem merged_of_nodup (distinct : (selections.map Selection.key).Nodup) :
    merged selections = selections := by
  induction selections with
  | nil => rfl
  | cons first rest ih =>
    obtain ⟨fresh, distinct⟩ := List.nodup_cons.mp distinct
    rw [merged, ih distinct, List.filter_eq_self.mpr]
    intro other member
    simpa using fun same : other.key = first.key => fresh (same ▸ List.mem_map_of_mem member)

/-- A selection conflicts only with others under its key. -/
theorem conflicts_of_nodup (distinct : (selections.map Selection.key).Nodup) :
    conflicts selections = [] := by
  -- Under each key there is at most one selection, with none to compare it to.
  have alone (key : String) :
      conflictsAmong (selections.filter fun selection => selection.key == key) = [] := by
    induction selections with
    | nil => rfl
    | cons first rest ih =>
      obtain ⟨fresh, distinct⟩ := List.nodup_cons.mp distinct
      by_cases here : first.key = key
      · have others : (rest.filter fun selection => selection.key == key) = [] := by
          refine List.filter_eq_nil_iff.mpr fun other member => ?_
          simpa using fun same : other.key = key =>
            fresh (here.trans same.symm ▸ List.mem_map_of_mem member)
        simp [here, others, conflictsAmong]
      · simp [here, ih distinct]
  simp [conflicts, alone]

theorem lookup_map_key (distinct : (selections.map Selection.key).Nodup) (shown : Selection → Value)
    {selection : Selection} (member : selection ∈ selections) :
    (selections.map fun other => (other.key, shown other)).lookup selection.key =
      some (shown selection) := by
  rw [Table.lookup_map, Table.find?_of_nodup distinct member]
  rfl

end

/-! ### Fields with a fixed value -/

section
variable {definition : Definition} {request : Request} {selection : Selection} {type : TypeRef}
  {value : Value}

theorem beginsReserved_of_schemaErrors (schema : schemaErrors definition request = [])
    {name : String} (member : name ∈ request.fieldNames) : beginsReserved name = false := by
  simp only [schemaErrors, List.append_eq_nil_iff, List.map_eq_nil_iff,
    List.filter_eq_nil_iff] at schema
  simpa using schema.2 name member

theorem Request.Resolves.plain (resolves : request.Resolves selection type value)
    (schema : schemaErrors definition request = []) : beginsReserved selection.field = false := by
  obtain ⟨name, found⟩ := resolves.field
  have named : name = selection.field := by simpa using List.find?_some found
  refine beginsReserved_of_schemaErrors schema (List.mem_append_left _ ?_)
  exact named ▸ List.mem_map_of_mem (List.mem_of_find?_eq_some found)

/-- Such a selection is answered from the value, without a call. -/
theorem runField_of_resolves (schema : schemaErrors definition request = [])
    (resolves : request.Resolves selection type value) (bindings : Table Value) :
    runField definition request bindings selection =
      runFixed definition selection type value := by
  have plain := resolves.plain schema
  have proper : selection.field ≠ typeNameField :=
    ne_of_beq_false (beq_false_of_reserved plain typeNameField rfl)
  obtain ⟨name, found⟩ := resolves.field
  rw [runField, if_neg proper]
  -- The field that hands its argument back would come first, if the schema has it.
  rcases resolves.fixed with none | other
  · simp only [none, found]
  · have notEcho : (selection.field == echoName) = false := beq_false_of_ne other
    simp only [notEcho, found]
    cases request.echo <;> rfl

theorem signature?_of_resolves (schema : schemaErrors definition request = [])
    (resolves : request.Resolves selection type value) :
    request.signature? selection.field = some ⟨type, []⟩ := by
  have plain := resolves.plain schema
  have uncommon : commonFields.lookup selection.field = none := by
    simp [commonFields, List.lookup_cons, beq_false_of_reserved plain typeNameField rfl,
      beq_false_of_reserved plain "__schema" rfl, beq_false_of_reserved plain "__type" rfl]
  have fields := Table.lookup_map request.fields Field.name
    (fun field => (⟨field.type, []⟩ : Signature)) selection.field
  obtain ⟨name, found⟩ := resolves.field
  rw [found] at fields
  have unechoed : (request.echo.toList.map fun type =>
      (echoName, (⟨.named stringTypeName, [(imageParameter, type)]⟩ : Signature))).lookup
        selection.field = none := by
    rcases resolves.fixed with none | other
    · simp [none]
    · cases request.echo with
      | none => rfl
      | some type => simp [List.lookup_cons, beq_false_of_ne other]
  rw [Request.signature?, uncommon, Request.ownFields, List.lookup_append, unechoed, fields]
  rfl

/-- A selection of a field of the scalar type is valid. -/
theorem selectionErrors_of_resolves (schema : schemaErrors definition request = [])
    (unrooted : definition.name ≠ rootTypeName)
    (resolves : request.Resolves selection (.named definition.name) value) :
    selectionErrors definition request selection = [] := by
  -- A type that some field has is in the schema, and a scalar has no fields to select.
  have used : request.usesScalar definition.name = true := by
    obtain ⟨name, found⟩ := resolves.field
    have member := List.mem_of_find?_eq_some found
    simp only [Request.usesScalar, Bool.or_eq_true, List.any_eq_true, beq_iff_eq]
    exact Or.inr ⟨_, member, rfl⟩
  have kind : (request.types definition.name).lookup definition.name = some .scalar := by
    simp [Request.types, used, List.lookup_cons, beq_false_of_ne unrooted]
  simp [selectionErrors, signature?_of_resolves schema resolves, resolves.argumentless,
    isComposite, TypeRef.innermost, kind, isCompositeKind, missingErrors]

end

/-! ### What the rule decides -/

/-- What a field shows that may be null, and its errors, by the value that it resolves to. -/
inductive FieldAnswer (definition : Definition) (rule : Image.Rule) (key : String) :
    Value → Value → List ResponseError → Prop where
  | nothing : FieldAnswer definition rule key .null .null []
  | accepted {brand : Option String} {content : String} :
      rule.check (.text brand content) = .ok (.accepted (.text brand content)) →
      FieldAnswer definition rule key (.text brand content) (.text brand content) []
  | rejected {value : Value} {kind : RejectionKind} {message : String} : value.isNull = false →
      rule.check value = .ok (.rejected kind message) →
      FieldAnswer definition rule key value .null
        [⟨message, some [.key key], [("code", kind.code), ("scalar", definition.nameValue)]⟩]

namespace FieldAnswer

variable {definition : Definition} {rule : Image.Rule} {key : String} {value shown : Value}
  {errors : List ResponseError}

/-- The value decides; there is nothing else that an answer depends on. -/
theorem unique (first : FieldAnswer definition rule key value shown errors) {otherShown : Value}
    {otherErrors : List ResponseError}
    (second : FieldAnswer definition rule key value otherShown otherErrors) :
    shown = otherShown ∧ errors = otherErrors := by
  cases first with
  | nothing =>
    cases second with
    | nothing => exact ⟨rfl, rfl⟩
    | rejected given _ => cases given
  | accepted checked =>
    cases second with
    | accepted _ => exact ⟨rfl, rfl⟩
    | rejected _ rejected =>
      rw [checked] at rejected
      cases rejected
  | rejected given rejected =>
    cases second with
    | nothing => cases given
    | accepted checked =>
      rw [checked] at rejected
      cases rejected
    | rejected _ same =>
      rw [rejected] at same
      cases same
      exact ⟨rfl, rfl⟩

theorem path_of_mem (answer : FieldAnswer definition rule key value shown errors)
    {error : ResponseError} (member : error ∈ errors) : error.path = some [.key key] := by
  cases answer with
  | nothing => cases member
  | accepted _ => cases member
  | rejected _ _ =>
    obtain rfl := List.mem_singleton.mp member
    rfl

end FieldAnswer

section
variable {draft : Draft} {definition : Definition} {rule : Image.Rule} {value : Value}

/-- A rule gives a reason for whatever it rejects. -/
theorem isSpecified_of_check_rejected (writable : rule.typeName.isWritable = true)
    {kind : RejectionKind} {message : String}
    (rejected : rule.check value = .ok (.rejected kind message)) : kind.isSpecified = true := by
  obtain ⟨verdict, checked, answers⟩ := Image.Rule.check_answers writable value
  rw [rejected] at checked
  cases checked
  cases answers <;> rfl

/-- An error that says what was rejected, why, and by which scalar. -/
theorem located_of_rejected {kind : RejectionKind} (specified : kind.isSpecified = true)
    {name : Value} (named : name.truthy = true) (message : String) (path : Path) :
    (ResponseError.ofFault (.rejectedValue name kind message)).located path =
      ⟨message, some path, [("code", kind.code), ("scalar", name)]⟩ := by
  have extensions :
      (Fault.rejectedValue name kind message).extensions =
        [("code", kind.code), ("scalar", name)] := by
    simp [Fault.extensions, Report.extensions, Fault.report, Fault.kind, Fault.scalar, specified,
      named]
  rw [ResponseError.ofFault, ResponseError.located, extensions]
  rfl

/-- What the rule says of a value that is there is all that completing it has to say. -/
theorem complete_of_given (made : draft.MadeInto definition) (checks : definition.ChecksBy rule)
    (given : value.isNull = false) (defined : value.isUndefined = false) (field : String)
    (path : Path) : complete definition field (.named definition.name) path value =
      match rule.check value with
      | .ok (.accepted accepted) => .done accepted
      | .ok (.rejected kind message) =>
        .failed ⟨message, some path, [("code", kind.code), ("scalar", definition.nameValue)]⟩
      | .error fault => .failed ((ResponseError.ofFault fault).located path) := by
  have custom : definition.name ≠ stringTypeName := fun same =>
    made.name_not_mem_builtinNames (same ▸ by decide)
  have serialized : definition.engineSerialize value = rule.check value >>= definition.deliver := by
    rw [Definition.engineSerialize, checks.serialize]
  obtain ⟨verdict, checked, answers⟩ := Image.Rule.check_answers checks.writable value
  simp only [complete, given, defined, completeLeaf, custom, serialized, checked,
    Bool.false_eq_true, if_false]
  cases verdict with
  | accepted accepted =>
    obtain ⟨rfl, brand, content, rfl⟩ := Image.Rule.text_of_check_accepted checked
    rfl
  | rejected kind message =>
    have specified := isSpecified_of_check_rejected checks.writable checked
    exact congrArg Completion.failed
      (located_of_rejected specified made.nameValue_truthy message path)

theorem exists_fieldAnswer (made : draft.MadeInto definition) (checks : definition.ChecksBy rule)
    (defined : value.isUndefined = false) (field key : String) :
    ∃ shown errors, FieldAnswer definition rule key value shown errors ∧
      (complete definition field (.named definition.name) [.key key] value).settle true =
        ⟨.ok shown, errors⟩ := by
  cases given : value.isNull with
  | true =>
    obtain rfl : value = .null := by cases value <;> simp_all [Value.isNull]
    exact ⟨.null, [], .nothing, rfl⟩
  | false =>
    rw [complete_of_given made checks given defined]
    obtain ⟨verdict, checked, -⟩ := Image.Rule.check_answers checks.writable value
    cases verdict with
    | accepted accepted =>
      obtain ⟨rfl, brand, content, rfl⟩ := Image.Rule.text_of_check_accepted checked
      refine ⟨_, [], .accepted checked, ?_⟩
      rw [checked]
      rfl
    | rejected kind message =>
      refine ⟨.null, _, .rejected given checked, ?_⟩
      rw [checked]
      rfl

/-- Where null is not allowed, a value that is nothing or that is rejected does not settle. -/
theorem unsettled_of_nonNull (made : draft.MadeInto definition)
    (checks : definition.ChecksBy rule)
    (unfit : value.isNull = true ∨ ∃ kind message,
      rule.check value = .ok (.rejected kind message)) (field : String) (path : Path) :
    ∃ error, ((complete definition field (.nonNull (.named definition.name)) path value).settle
      false).result = .error error := by
  cases given : value.isNull with
  | true =>
    obtain rfl : value = .null := by cases value <;> simp_all [Value.isNull]
    exact ⟨_, rfl⟩
  | false =>
    cases defined : value.isUndefined with
    | true =>
      refine ⟨undefinedError.located path, ?_⟩
      simp [complete, given, defined, Completion.failed, Completion.nonNull, Completion.settle]
    | false =>
      obtain null | ⟨kind, message, rejected⟩ := unfit
      · rw [given] at null
        cases null
      · rw [complete, complete_of_given made checks given defined, rejected]
        exact ⟨_, rfl⟩

end

end CustomScalars.Execution
