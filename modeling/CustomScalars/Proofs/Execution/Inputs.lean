import CustomScalars.Proofs.Definition.Surfaces
import CustomScalars.Proofs.Execution.Variables
import CustomScalars.Proofs.Image.Usefulness

/-!
# Input that a scalar rejects

A request with input that the scalar rejects is refused before any of its fields is run: a literal
when the request is validated, a supplied value when the variables are coerced. So what a resolver
is handed for an argument of an image scalar has been accepted, as a literal or as the value of a
variable, or is nothing.
-/
namespace CustomScalars.Execution

/-- The literal is handed to the scalar, being neither null nor a variable. -/
def isHanded : Literal → Bool
  | .null | .variableRef _ => false
  | _ => true

/-- What the resolver is handed for an argument: the marker of an absent one, null, or a text that
was given in the request or supplied with it and that the rule accepts. -/
inductive Received (rule : Image.Rule) (supplied : Table Value) : Option Literal → Value → Prop where
  | omitted : Received rule supplied none absentArgument
  | unbound {name : String} : supplied.lookup name = none →
      Received rule supplied (some (.variableRef name)) absentArgument
  | null : Received rule supplied (some .null) .null
  | nothing {name : String} {value : Value} : supplied.lookup name = some value →
      value.isNull = true ∨ value.isUndefined = true →
      Received rule supplied (some (.variableRef name)) .null
  | literal {brand : Option String} {content : String} :
      rule.check (.text brand content) = .ok (.accepted (.text brand content)) →
      Received rule supplied (some (.text (.text brand content))) (.text brand content)
  | variable {name : String} {brand : Option String} {content : String} :
      supplied.lookup name = some (.text brand content) →
      rule.check (.text brand content) = .ok (.accepted (.text brand content)) →
      Received rule supplied (some (.variableRef name)) (.text brand content)

section
variable {draft : Draft} {definition : Definition} {request made : Request}
  {selection : Selection} {type : TypeRef}

/-! ### Literals -/

theorem signature?_echo (echo : request.echo = some type) :
    request.signature? echoName =
      some ⟨.named stringTypeName, [(imageParameter, type)]⟩ := by
  have uncommon : commonFields.lookup echoName = none := by decide
  rw [Request.signature?, uncommon, Request.ownFields, echo]
  rfl

theorem argumentType?_echo (echo : request.echo = some type) (onEcho : selection.field = echoName) :
    request.argumentType? selection = some type := by
  rw [Request.argumentType?, onEcho, signature?_echo echo]
  rfl

theorem argumentError?_of_rejected {literal : Literal} (handed : isHanded literal = true)
    {fault : Fault} (rejected : definition.engineParseLiteral literal .null = .error fault)
    (type : TypeRef) : ∃ error, argumentError? definition type literal = some error := by
  have reported (place : TypeRef) : ∃ error, parsedError? place literal (.error fault) =
      some error := by
    rw [parsedError?]
    split <;> exact ⟨_, rfl⟩
  unfold argumentError?
  split
  · cases handed
  · cases handed
  · rw [rejected]
    exact reported _
  · rw [rejected]
    exact reported _

/-- A literal that the scalar rejects makes the request invalid. -/
theorem validationErrors_of_rejected_literal (member : selection ∈ request.selections)
    (onEcho : selection.field = echoName) (echo : request.echo = some type) {literal : Literal}
    (given : selection.argument = some literal) (handed : isHanded literal = true) {fault : Fault}
    (rejected : definition.engineParseLiteral literal .null = .error fault) :
    validationErrors definition request ≠ [] := by
  intro valid
  simp only [validationErrors, List.append_eq_nil_iff, List.flatMap_eq_nil_iff] at valid
  have errors := valid.1.2 selection member
  obtain ⟨error, wrong⟩ := argumentError?_of_rejected handed rejected type
  simp [selectionErrors, onEcho, signature?_echo echo, given, givenErrors, wrong] at errors

/-! ### Variables -/

/-- A value of the scalar type that the scalar rejects is an error. -/
theorem coerceVariable_of_rejected (drafted : draft.MadeInto definition)
    {declaration : VariableDeclaration} {value : Value}
    (typed : declaration.type = .named definition.name ∧ value.isUndefined = false ∨
      declaration.type = .nonNull (.named definition.name))
    (given : value.isNull = false) {fault : Fault}
    (rejected : definition.engineParseValue value = .error fault) :
    (coerceVariable definition declaration (some value)).2 ≠ [] := by
  obtain ⟨error, wrong⟩ := coerceScalar_of_rejected [] rejected
  rcases typed with ⟨typed, defined⟩ | typed
  · simp [coerceVariable, given, coerceInput, typed, defined, coerceNamed_own drafted, wrong]
  · cases defined : value.isUndefined <;>
      simp [coerceVariable, given, coerceInput, typed, defined, coerceNamed_own drafted, wrong]

/-! ### Calls -/

/-- Only the field that hands its argument back calls a resolver that is handed something. -/
theorem argument_of_mem_calls {bindings : Table Value} {value : Value}
    (called : value ∈ (runField definition request bindings selection).calls) :
    selection.field = echoName ∧ ∃ type argument, request.echo = some type ∧
      argumentValue definition type bindings selection.argument = .ok argument ∧
      value = argument.getD absentArgument := by
  unfold runField at called
  split at called
  · cases called
  · split at called
    next type echo onEcho =>
      refine ⟨by simpa using onEcho, type, ?_⟩
      simp only [runEcho] at called
      split at called
      · cases called
      next argument read => exact ⟨argument, echo, read, List.mem_singleton.mp called⟩
    next => split at called <;> cases called

/-- An argument that is not there is one that need not be. -/
theorem eq_none_of_absentUnless {error : ResponseError} {argument : Option Value}
    (read : absentUnless type error = .ok argument) : argument = none := by
  unfold absentUnless at read
  split at read
  · cases read
  · cases read
    rfl

theorem eq_null_of_nullUnless {argument : Option Value} (read : nullUnless type = .ok argument) :
    argument = some .null := by
  unfold nullUnless at read
  split at read
  · cases read
  · cases read
    rfl

variable {rule : Image.Rule} {supplied bindings : Table Value}

theorem parsed_of_argumentValue {literal : Literal} (handed : isHanded literal = true)
    {argument : Option Value}
    (read : argumentValue definition type bindings (some literal) = .ok argument) :
    ∃ value, definition.engineParseLiteral literal (.ofEntries bindings) = .ok value ∧
      argument = some value := by
  unfold argumentValue at read
  split at read
  next absent => cases absent
  next same =>
    cases same
    cases handed
  next same =>
    cases same
    cases handed
  next own _ _ same =>
    cases same
    split at read
    next value parsed =>
      split at read
      · cases read
      · cases read
        exact ⟨value, parsed, rfl⟩
    · cases read

/-- Of the literals that are handed to an image scalar only texts that its rule accepts are read,
as they are. -/
theorem received_of_parsed (checks : definition.ChecksBy rule) {literal : Literal}
    (handed : isHanded literal = true) {value : Value}
    (parsed : definition.engineParseLiteral literal (.ofEntries bindings) = .ok value) :
    Received rule supplied (some literal) value := by
  obtain ⟨typeName, input⟩ := checks.input
  simp only [Definition.engineParseLiteral, input] at parsed
  obtain ⟨content, rfl, checked⟩ | ⟨name, _, rfl, -, -⟩ :=
    accepted_of_parseTextLiteral (Definition.accepted_of_delivered parsed)
  · obtain ⟨rfl, brand, text, rfl⟩ := Image.Rule.text_of_check_accepted checked
    exact .literal checked
  · cases handed

/-- A variable of a valid request hands on what was supplied for it, if the rule accepts it. -/
theorem received_of_bound (drafted : draft.MadeInto definition)
    (checks : definition.ChecksBy rule) {declarations : List VariableDeclaration}
    (coerced : coerceDeclarations definition supplied declarations = (bindings, []))
    {declaration : VariableDeclaration}
    (only : ∀ other ∈ declarations, other.name = declaration.name → other = declaration)
    (fits : declaration.type.fits (.named definition.name) = true) {value : Value}
    (bound : bindings.lookup declaration.name = some value) :
    Received rule supplied (some (.variableRef declaration.name)) value := by
  obtain ⟨other, member, name, given, present, read⟩ := exists_of_lookup_bindings coerced bound
  obtain rfl := only other member name
  obtain ⟨typeName, input⟩ := checks.input
  rcases coerceInput_of_fits drafted fits read with ⟨rfl, nothing⟩ | parsed
  · exact .nothing present nothing
  · simp only [Definition.engineParseValue, input] at parsed
    have checked := Definition.accepted_of_delivered parsed
    obtain ⟨rfl, brand, text, rfl⟩ := Image.Rule.text_of_check_accepted checked
    exact .variable present checked

section
variable (drafted : draft.MadeInto definition) (checks : definition.ChecksBy rule)
  (admitted : Admitted definition request supplied bindings)
  (member : selection ∈ request.selections) (onEcho : selection.field = echoName)
  (echo : request.echo = some type)
  (own : type = .named definition.name ∨ type = .nonNull (.named definition.name))
include drafted checks admitted member onEcho echo own

theorem received_of_variable {name : String}
    (given : selection.argument = some (.variableRef name)) {argument : Option Value}
    (read : argumentValue definition type bindings (some (.variableRef name)) = .ok argument) :
    Received rule supplied (some (.variableRef name)) (argument.getD absentArgument) := by
  -- The request is valid, so the variable is declared once and with a type that fits.
  have used : (⟨name, some type⟩ : VariableUse) ∈ request.uses := by
    refine List.mem_flatMap.mpr ⟨selection, member, ?_⟩
    rw [given, argumentType?_echo echo onEcho]
    exact List.mem_singleton.mpr rfl
  obtain ⟨declaration, declared⟩ := exists_declaredFor admitted.valid used
  obtain rfl : declaration.name = name := declared.name
  cases bound : bindings.lookup declaration.name with
  | none =>
    simp only [argumentValue, bound] at read
    rw [eq_none_of_absentUnless read]
    exact .unbound (lookup_supplied_of_unbound admitted.coerced declared.member bound)
  | some value =>
    have fits : declaration.type.fits (.named definition.name) = true := by
      have placed := declared.fits type rfl
      rcases own with rfl | rfl
      · exact placed
      · exact fits_of_fits_nonNull placed
    have received := received_of_bound drafted checks admitted.coerced declared.only fits bound
    obtain rfl : argument = some value := by
      simp only [argumentValue, bound] at read
      split at read
      next nothing => cases nothing
      next nothing =>
        cases nothing
        exact eq_null_of_nullUnless read
      next own _ same =>
        cases same
        cases read
        rfl
    exact received

/-- What is read as the argument of a selection was accepted, or is nothing. -/
theorem received_of_argumentValue {argument : Option Value}
    (read : argumentValue definition type bindings selection.argument = .ok argument) :
    Received rule supplied selection.argument (argument.getD absentArgument) := by
  cases given : selection.argument with
  | none =>
    rw [given] at read
    rw [eq_none_of_absentUnless read]
    exact .omitted
  | some literal =>
    rw [given] at read
    cases handed : isHanded literal with
    | true =>
      obtain ⟨value, parsed, rfl⟩ := parsed_of_argumentValue handed read
      exact received_of_parsed checks handed parsed
    | false =>
      cases literal with
      | variableRef name =>
        exact received_of_variable drafted checks admitted member onEcho echo own given read
      | null =>
        rw [eq_null_of_nullUnless read]
        exact .null
      | _ => cases handed

end

end

theorem mem_of_mem_merged {selections : List Selection} {selection : Selection}
    (member : selection ∈ merged selections) : selection ∈ selections := by
  induction selections with
  | nil => exact member
  | cons first rest ih =>
    rcases List.mem_cons.mp member with rfl | later
    · exact List.mem_cons_self
    · exact List.mem_cons_of_mem _ (ih (List.mem_filter.mp later).1)

/-- No resolver sees input that the scalar rejects. A request is refused, without data and with
nothing run, if the scalar rejects a literal in it or a value that is supplied with it, and a scalar
for output only rejects them all; the undefined value is left apart, which is no value to a variable
that need not have one. And what the resolvers are handed on behalf of an image scalar are texts
that were given in the request or supplied with it and that its rule accepts, or nothing. -/
theorem rejected_input_unseen {draft : Draft} {definition : Definition} {request made : Request}
    (drafted : Definition.ofDraft draft = .ok definition)
    (constructs : constructed definition request = .ok made) :
    (∀ selection ∈ made.selections, ∀ type literal fault, selection.field = echoName →
        made.echo = some type → selection.argument = some literal → isHanded literal = true →
        definition.engineParseLiteral literal .null = .error fault →
        Refuses definition request) ∧
      (∀ declaration ∈ made.declarations, ∀ entries value fault,
        (declaration.type = .named definition.name ∧ value.isUndefined = false ∨
          declaration.type = .nonNull (.named definition.name)) →
        suppliedEntries made.supplied = .ok entries →
        entries.lookup declaration.name = some value → value.isNull = false →
        definition.engineParseValue value = .error fault → Refuses definition request) ∧
      (definition.acceptsInput = false →
        (∀ literal, ∃ fault, definition.engineParseLiteral literal .null = .error fault) ∧
        ∀ value, ∃ fault, definition.engineParseValue value = .error fault) ∧
      (Image.IsImageScalar definition → ∃ rule, definition.ChecksBy rule ∧
        ∀ type response, made.echo = some type →
          (type = .named definition.name ∨ type = .nonNull (.named definition.name)) →
          execute definition request = .ok response → ∀ value ∈ response.calls,
          ∃ entries, suppliedEntries made.supplied = .ok entries ∧
            ∃ selection ∈ made.selections, selection.field = echoName ∧
              Received rule entries selection.argument value) := by
  have parts := Definition.madeInto_of_ofDraft drafted
  refine ⟨?_, ?_, ?_, ?_⟩
  · intro selection member type literal fault onEcho echo given handed rejected
    exact refuses_of_invalid constructs
      (validationErrors_of_rejected_literal member onEcho echo given handed rejected)
  · intro declaration member entries value fault typed supplied present given rejected
    refine refuses_of_uncoerced constructs supplied (coerceDeclarations_ne_nil member ?_)
    rw [present]
    exact coerceVariable_of_rejected parts typed given rejected
  · intro without
    have refused := fun operation asks =>
      (⟨_, Definition.callEngine_of_outputOnly without operation asks⟩ :
        ∃ fault, definition.callEngine operation = .error fault)
    exact ⟨fun literal => refused (.parseLiteral literal .null) rfl,
      fun value => refused (.parseValue value) rfl⟩
  · intro image
    obtain ⟨rule, checks⟩ := image.checksBy
    refine ⟨rule, checks, fun type response echo own executed value called => ?_⟩
    rw [execute_of_constructed constructs] at executed
    have answers := answer_answers definition made
    rw [executed] at answers
    cases answers with
    | refused some => cases called
    -- Calls come from fields that were run, each on behalf of a selection.
    | @run entries bindings admitted =>
      obtain ⟨selection, member, calls⟩ := exists_of_mem_calls_runFields called
      obtain ⟨onEcho, own', argument, sameEcho, read, rfl⟩ := argument_of_mem_calls calls
      obtain rfl := Option.some.inj (echo.symm.trans sameEcho)
      have present := mem_of_mem_merged member
      exact ⟨entries, admitted.supplied, selection, present, onEcho,
        received_of_argumentValue parts checks admitted present onEcho echo own read⟩

/-- A request that hands an image back, alone or with another selection and values for variables. -/
def echoRequest (type : TypeRef) (others : List Selection) (declarations : List VariableDeclaration)
    (supplied : Table Value) : Request :=
  ⟨.declared, [], some type, ⟨"cat", echoName, some (.text (.ofText "cat.png"))⟩ :: others,
    declarations, .ofEntries supplied, none⟩

theorem constructed_echoRequest (type : TypeRef) (others : List Selection)
    (declarations : List VariableDeclaration) (supplied : Table Value) :
    constructed Image.standardScalar (echoRequest type others declarations supplied) =
      .ok (echoRequest type others declarations supplied) := by
  have names : (echoRequest type others declarations supplied).fieldNames = [echoName] := rfl
  have checked : checkDeclared Image.standardScalar
      (echoRequest type others declarations supplied) = .ok () := by
    simp only [checkDeclared, names]
    rfl
  simp only [constructed, echoRequest] at checked ⊢
  rw [checked]
  rfl

/-- A truth value that is written beside an image, a text without an extension that is supplied
beside it, and the image alone. -/
theorem rejected_input_unseen_of_echoes :
    let required := TypeRef.nonNull (.named "Image")
    let flag : Selection := ⟨"flag", echoName, some (.boolean true)⟩
    let bound : Selection := ⟨"bound", echoName, some (.variableRef "img")⟩
    Refuses Image.standardScalar (echoRequest required [flag] [] []) ∧
      Refuses Image.standardScalar
        (echoRequest required [bound] [⟨"img", required⟩] [("img", .ofText "cats")]) ∧
      execute Image.standardScalar (echoRequest required [] [] []) =
        .ok ⟨some [("cat", .ofText "cat.png")], [], [.ofText "cat.png"]⟩ ∧
      ∃ rule, Image.standardScalar.ChecksBy rule ∧
        Received rule [] (some (.text (.ofText "cat.png"))) (.ofText "cat.png") := by
  intro required flag bound
  have drafted : Definition.ofDraft (Image.scalarDraft (.ofText Image.standardName)
      (.ofText Image.scalarDescription) Image.Rule.standard) = .ok Image.standardScalar := rfl
  have executed : execute Image.standardScalar
      (echoRequest (.nonNull (.named "Image")) [] [] []) =
        .ok ⟨some [("cat", .ofText "cat.png")], [], [.ofText "cat.png"]⟩ := rfl
  refine ⟨?_, ?_, executed, ?_⟩
  · have unseen := rejected_input_unseen drafted (constructed_echoRequest required [flag] [] [])
    exact unseen.1 flag (List.mem_cons_of_mem _ List.mem_cons_self) required (.boolean true) _ rfl
      rfl rfl rfl rfl
  · have unseen := rejected_input_unseen drafted (constructed_echoRequest required [bound]
      [⟨"img", required⟩] [("img", .ofText "cats")])
    exact unseen.2.1 ⟨"img", required⟩ List.mem_cons_self _ (.ofText "cats") _ (Or.inr rfl) rfl rfl
      rfl rfl
  · have unseen := rejected_input_unseen drafted (constructed_echoRequest required [] [] [])
    obtain ⟨rule, checks, seen⟩ := unseen.2.2.2 (Or.inl rfl)
    obtain ⟨entries, supplied, selection, member, -, received⟩ :=
      seen required _ rfl (Or.inr rfl) executed (.ofText "cat.png") List.mem_cons_self
    obtain rfl := List.mem_singleton.mp member
    cases supplied
    exact ⟨rule, checks, received⟩

/-- The undefined value, supplied for a variable that may be null, is not handed to the scalar,
which would reject it: the resolver is called with null. -/
theorem undefined_supplied_unrejected :
    let request : Request :=
      ⟨.declared, [⟨"title", .named "String", .ofText "Cats"⟩], some (.named "Image"),
        [⟨"title", "title", none⟩, ⟨"echo", echoName, some (.variableRef "img")⟩],
        [⟨"img", .named "Image"⟩], .ofEntries [("img", .undefined)], none⟩
    (∃ fault, Image.standardScalar.engineParseValue .undefined = .error fault) ∧
      execute Image.standardScalar request =
        .ok ⟨some [("title", .ofText "Cats"), ("echo", .null)], [], [.null]⟩ :=
  ⟨⟨_, rfl⟩, rfl⟩

end CustomScalars.Execution
