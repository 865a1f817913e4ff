import CustomScalars.Proofs.Execution.Fields
import Mathlib.Tactic.Choose

/-!
# Requests for image fields

Each field that a request selects is answered by itself. Where null is allowed, a value that the
rule of the scalar rejects is null and is explained by one error, and neither the other fields nor
their errors have a part in it. Where null is not allowed, such a value takes all data with it.
-/
namespace CustomScalars.Execution

/-- The request asks, under different names and without variables, for some fields of the scalar
type, which resolve to these values. If it asks for an operation by name, it is the one there is. -/
structure AsksFor (definition : Definition) (request : Request) (raw : Selection → Value) :
    Prop where
  schema : schemaErrors definition request = []
  unrooted : definition.name ≠ rootTypeName
  selects : request.selections ≠ []
  named : ∀ selection ∈ request.selections, SchemaText.isPlainName selection.key = true
  distinct : (request.selections.map Selection.key).Nodup
  undeclared : request.declarations = []
  supplied : ∃ entries, suppliedEntries request.supplied = .ok entries
  operation : request.operation = none ∨ request.operation = some operationName
  resolves : ∀ selection ∈ request.selections,
    request.Resolves selection (.named definition.name) (raw selection)
  defined : ∀ selection ∈ request.selections, (raw selection).isUndefined = false

namespace AsksFor

variable {definition : Definition} {request : Request} {raw : Selection → Value}

theorem valid (asks : AsksFor definition request raw) :
    validationErrors definition request = [] := by
  have unused : request.uses = [] := by
    refine List.flatMap_eq_nil_iff.mpr fun selection member => ?_
    rw [(asks.resolves selection member).argumentless]
  have selections : request.selections.flatMap (selectionErrors definition request) = [] :=
    List.flatMap_eq_nil_iff.mpr fun selection member =>
      selectionErrors_of_resolves asks.schema asks.unrooted (asks.resolves selection member)
  simp [validationErrors, asks.undeclared, declarationErrors, repeatedDeclarations,
    conflicts_of_nodup asks.distinct, selections, useErrors, undeclaredUses, unusedDeclarations,
    unused]

theorem admitted (asks : AsksFor definition request raw) :
    ∃ entries, Admitted definition request entries [] := by
  obtain ⟨entries, supplied⟩ := asks.supplied
  refine ⟨entries, asks.schema, syntaxErrors_of_named asks.selects asks.named, asks.valid, ?_,
    supplied, ?_⟩
  · rcases asks.operation with none | named
    · rw [none]
      rfl
    · rw [named]
      rfl
  · rw [asks.undeclared]
    rfl

/-- Every field is answered from its own value, in the order of the selections. -/
theorem answered {draft : Draft} {rule : Image.Rule} (asks : AsksFor definition request raw)
    (made : draft.MadeInto definition) (checks : definition.ChecksBy rule) :
    ∃ (shown : Selection → Value) (errors : Selection → List ResponseError),
      answer definition request =
        .ok ⟨some (request.selections.map fun selection => (selection.key, shown selection)),
          request.selections.flatMap errors, []⟩ ∧
      ∀ selection ∈ request.selections,
        FieldAnswer definition rule selection.key (raw selection) (shown selection)
          (errors selection) := by
  obtain ⟨entries, admitted⟩ := asks.admitted
  have each : ∀ selection ∈ request.selections, ∃ shown errors,
      FieldAnswer definition rule selection.key (raw selection) shown errors ∧
        settled definition request [] selection = ⟨.ok shown, errors⟩ ∧
        (runField definition request [] selection).calls = [] := by
    intro selection member
    obtain ⟨shown, errors, field, settles⟩ := exists_fieldAnswer made checks
      (asks.defined selection member) selection.field selection.key
    have fixed := runField_of_resolves asks.schema (asks.resolves selection member) []
    refine ⟨shown, errors, field, ?_, ?_⟩
    · rw [settled, fixed]
      exact settles
    · rw [fixed]
      rfl
  -- One choice for all selections makes a function of what their fields come to.
  choose! shown errors each using each
  refine ⟨shown, errors, ?_, fun selection member => (each selection member).1⟩
  rw [answer_of_admitted admitted, merged_of_nodup asks.distinct,
    runFields_of_settled fun selection member => (each selection member).2]

end AsksFor

namespace Response

/-- What the answer has under a key. -/
def entry? (response : Response) (key : String) : Option Value :=
  response.data.bind fun entries => entries.lookup key

/-- The errors of the field under a key, or of something inside it. -/
def errorsUnder (response : Response) (key : String) : List ResponseError :=
  response.errors.filter fun error => error.path.any fun path => path.head? == some (.key key)

end Response

section
variable {selections : List Selection} {errors : Selection → List ResponseError}

/-- Errors that say under which key they arose can be told apart by it. -/
theorem filter_flatMap_errors (distinct : (selections.map Selection.key).Nodup)
    (paths : ∀ selection ∈ selections, ∀ error ∈ errors selection,
      error.path = some [.key selection.key])
    {selection : Selection} (member : selection ∈ selections) :
    ((selections.flatMap errors).filter fun error =>
      error.path.any fun path => path.head? == some (.key selection.key)) = errors selection := by
  -- No error of selections under other keys is among those of this one.
  have others {rest : List Selection} (absent : selection.key ∉ rest.map Selection.key)
      (paths : ∀ other ∈ rest, ∀ error ∈ errors other, error.path = some [.key other.key]) :
      ((rest.flatMap errors).filter fun error =>
        error.path.any fun path => path.head? == some (.key selection.key)) = [] := by
    refine List.filter_eq_nil_iff.mpr fun error listed => ?_
    obtain ⟨other, present, listed⟩ := List.mem_flatMap.mp listed
    have differs : other.key ≠ selection.key := fun same =>
      absent (same ▸ List.mem_map_of_mem present)
    simp [paths other present error listed, differs]
  induction selections with
  | nil => cases member
  | cons first rest ih =>
    obtain ⟨fresh, distinct⟩ := List.nodup_cons.mp distinct
    have later := fun other (present : other ∈ rest) =>
      paths other (List.mem_cons_of_mem _ present)
    rw [List.flatMap_cons, List.filter_append]
    rcases List.mem_cons.mp member with rfl | present
    · rw [others fresh later, List.append_nil]
      refine List.filter_eq_self.mpr fun error listed => ?_
      simp [paths selection List.mem_cons_self error listed]
    · have absent : selection.key ∉ [first].map Selection.key := by
        simpa using fun same : selection.key = first.key =>
          fresh (same ▸ List.mem_map_of_mem present)
      have none := others absent fun other single =>
        paths other (List.mem_singleton.mp single ▸ List.mem_cons_self)
      rw [List.flatMap_singleton] at none
      rw [none, List.nil_append, ih distinct later present]

end

section
variable {draft : Draft} {definition : Definition} {rule : Image.Rule} {request : Request}
  (made : draft.MadeInto definition) (checks : definition.ChecksBy rule)
include made checks

/-- A field with the same value is answered in the same way, whatever the others have. -/
theorem AsksFor.unaffected {raw : Selection → Value} (asks : AsksFor definition request raw)
    {changed : Request} {changedRaw : Selection → Value}
    (changedAsks : AsksFor definition changed changedRaw)
    (same : changed.selections = request.selections) :
    ∃ response changedResponse, answer definition request = .ok response ∧
      answer definition changed = .ok changedResponse ∧
      ∀ selection ∈ request.selections, changedRaw selection = raw selection →
        changedResponse.entry? selection.key = response.entry? selection.key ∧
        changedResponse.errorsUnder selection.key = response.errorsUnder selection.key := by
  obtain ⟨shown, errors, answered, each⟩ := asks.answered made checks
  obtain ⟨changedShown, changedErrors, changedAnswered, changedEach⟩ :=
    changedAsks.answered made checks
  rw [same] at changedAnswered changedEach
  refine ⟨_, _, answered, changedAnswered, fun selection member unchanged => ?_⟩
  -- What the two fields show is decided by one value, so it is the same.
  have changedField := changedEach selection member
  rw [unchanged] at changedField
  obtain ⟨sameShown, sameErrors⟩ := (each selection member).unique changedField
  constructor
  · simp only [Response.entry?, Option.bind_some, lookup_map_key asks.distinct _ member, sameShown]
  · simp only [Response.errorsUnder]
    rw [filter_flatMap_errors asks.distinct
        (fun other present _ => (each other present).path_of_mem) member,
      filter_flatMap_errors asks.distinct
        (fun other present _ => (changedEach other present).path_of_mem) member, sameErrors]

/-- A field that may not be null and has nothing to show leaves no data, also where the request is
refused for another reason. -/
theorem exists_answer_without_data (distinct : (request.selections.map Selection.key).Nodup)
    (supplied : ∃ entries, suppliedEntries request.supplied = .ok entries) {selection : Selection}
    (member : selection ∈ request.selections) {value : Value}
    (resolves : request.Resolves selection (.nonNull (.named definition.name)) value)
    (unfit : value.isNull = true ∨ ∃ kind message,
      rule.check value = .ok (.rejected kind message)) :
    ∃ response, answer definition request = .ok response ∧ response.data = none := by
  have answers := answer_answers definition request
  generalize answer definition request = result at answers ⊢
  cases answers with
  | refused _ => exact ⟨_, rfl, rfl⟩
  | unsupplied _ fault =>
    obtain ⟨entries, supplied⟩ := supplied
    rw [supplied] at fault
    cases fault
  | @run _ bindings admitted =>
    obtain ⟨error, fails⟩ := unsettled_of_nonNull made checks unfit selection.field
      [.key selection.key]
    have unsettled : (settled definition request bindings selection).result = .error error := by
      rw [settled, runField_of_resolves admitted.schema resolves]
      exact fails
    refine ⟨_, rfl, ?_⟩
    rw [merged_of_nodup distinct]
    exact data_runFields_of_unsettled member unsettled

end

/-- The fields of an image scalar are answered each by itself: a request for some of them, under
different keys and where null is allowed, is answered with an entry for every key and with no other
errors than those of the fields; what a field shows and which error it has are decided by its own
value, so that no change to other fields makes a difference to it. A field that may not be null and
has nothing to show leaves no data at all, whatever else is requested. -/
theorem outputs_isolated {definition : Definition} (image : Image.IsImageScalar definition) :
    ∃ rule, definition.ChecksBy rule ∧
      (∀ request made raw, constructed definition request = .ok made →
        AsksFor definition made raw →
        ∃ (shown : Selection → Value) (errors : Selection → List ResponseError),
          execute definition request =
            .ok ⟨some (made.selections.map fun selection => (selection.key, shown selection)),
              made.selections.flatMap errors, []⟩ ∧
          ∀ selection ∈ made.selections,
            FieldAnswer definition rule selection.key (raw selection) (shown selection)
              (errors selection)) ∧
      (∀ request made raw changed changedMade changedRaw,
        constructed definition request = .ok made → AsksFor definition made raw →
        constructed definition changed = .ok changedMade →
        AsksFor definition changedMade changedRaw → changedMade.selections = made.selections →
        ∃ response changedResponse, execute definition request = .ok response ∧
          execute definition changed = .ok changedResponse ∧
          ∀ selection ∈ made.selections, changedRaw selection = raw selection →
            changedResponse.entry? selection.key = response.entry? selection.key ∧
            changedResponse.errorsUnder selection.key = response.errorsUnder selection.key) ∧
      ∀ request made selection value, constructed definition request = .ok made →
        (made.selections.map Selection.key).Nodup →
        (∃ entries, suppliedEntries made.supplied = .ok entries) →
        selection ∈ made.selections →
        made.Resolves selection (.nonNull (.named definition.name)) value →
        (value.isNull = true ∨ ∃ kind message,
          rule.check value = .ok (.rejected kind message)) →
        ∃ response, execute definition request = .ok response ∧ response.data = none := by
  obtain ⟨description, rule, drafted⟩ := image.drafted
  have parts := Definition.madeInto_of_ofDraft drafted
  have checks := Image.checksBy_of_scalarDraft drafted
  refine ⟨rule, checks, ?_, ?_, ?_⟩
  · intro request made raw constructs asks
    rw [execute_of_constructed constructs]
    exact asks.answered parts checks
  · intro request made raw changed changedMade changedRaw constructs asks changedConstructs
      changedAsks same
    rw [execute_of_constructed constructs, execute_of_constructed changedConstructs]
    exact asks.unaffected parts checks changedAsks same
  · intro request made selection value constructs distinct supplied member resolves unfit
    rw [execute_of_constructed constructs]
    exact exists_answer_without_data parts checks distinct supplied member resolves unfit

/-- Two images of which the second is replaced by nothing, and one that may not be nothing. -/
theorem outputs_isolated_of_images :
    let asked (second : Value) : Request :=
      ⟨.declared, [⟨"first", .named "Image", .ofText "cat.png"⟩, ⟨"second", .named "Image", second⟩],
        none, [⟨"first", "first", none⟩, ⟨"second", "second", none⟩], [], .null, none⟩
    let required : Request :=
      ⟨.declared, [⟨"photo", .nonNull (.named "Image"), .null⟩], none, [⟨"photo", "photo", none⟩],
        [], .null, none⟩
    (∃ rule first second firstErrors secondErrors,
      execute Image.standardScalar (asked (.ofText "cats")) =
        .ok ⟨some [("first", first), ("second", second)], firstErrors ++ secondErrors, []⟩ ∧
      FieldAnswer Image.standardScalar rule "first" (.ofText "cat.png") first firstErrors ∧
      FieldAnswer Image.standardScalar rule "second" (.ofText "cats") second secondErrors) ∧
    (∃ response changed, execute Image.standardScalar (asked (.ofText "cats")) = .ok response ∧
      execute Image.standardScalar (asked .null) = .ok changed ∧
      changed.entry? "first" = response.entry? "first" ∧
      changed.errorsUnder "first" = response.errorsUnder "first") ∧
    ∃ response, execute Image.standardScalar required = .ok response ∧ response.data = none := by
  intro asked required
  let raw (second : Value) (selection : Selection) : Value :=
    if selection.key = "first" then .ofText "cat.png" else second
  have asks (second : Value) (defined : second.isUndefined = false)
      (schema : schemaErrors Image.standardScalar (asked second) = []) :
      AsksFor Image.standardScalar (asked second) (raw second) := by
    have distinct : ["first", "second"].Nodup := by decide
    refine ⟨schema, by decide, List.cons_ne_nil _ _, fun selection member => ?_, distinct, rfl,
      ⟨[], rfl⟩, Or.inl rfl, fun selection member => ?_, fun selection member => ?_⟩
    · rcases List.mem_pair.mp member with rfl | rfl <;> decide
    · rcases List.mem_pair.mp member with rfl | rfl <;> exact ⟨⟨_, rfl⟩, Or.inl rfl, rfl⟩
    · rcases List.mem_pair.mp member with rfl | rfl
      · rfl
      · exact defined
  have image : Image.IsImageScalar Image.standardScalar := Or.inl rfl
  obtain ⟨rule, -, answered, isolated, failed⟩ := outputs_isolated image
  have cats := asks (.ofText "cats") rfl rfl
  have nothing := asks .null rfl rfl
  refine ⟨?_, ?_, ?_⟩
  · obtain ⟨shown, errors, executed, each⟩ := answered (asked (.ofText "cats")) _ _ rfl cats
    refine ⟨rule, _, _, _, _, executed.trans ?_, each _ List.mem_cons_self,
      each _ (List.mem_cons_of_mem _ List.mem_cons_self)⟩
    simp [asked]
  · obtain ⟨response, changed, executed, changedExecuted, same⟩ :=
      isolated (asked (.ofText "cats")) _ _ (asked .null) _ _ rfl cats rfl nothing rfl
    exact ⟨response, changed, executed, changedExecuted, same _ List.mem_cons_self rfl⟩
  · exact failed required required ⟨"photo", "photo", none⟩ .null rfl (by decide) ⟨[], rfl⟩
      List.mem_cons_self ⟨⟨_, rfl⟩, Or.inl rfl, rfl⟩ (Or.inl rfl)

/-- Some scalar for pictures, from no settings. -/
def pictureScalar (name : String) : Image.Request :=
  ⟨.ofText name, .null, .list none [.ofText "png"], .bool true, .null⟩

/-- A request to a schema with one picture of such a scalar. -/
def pictureRequest (style : SchemaStyle) (name : String) (selections : List Selection)
    (supplied : Value) : Request :=
  ⟨style, [⟨"photo", .named name, .ofText "cat.png"⟩], none, selections, [], supplied, none⟩

/-- Where there is no data for fields of a scalar although each of them has some: nothing is
selected, the scalar has the name of the query type or one that its schema cannot have, and what is
supplied for variables is no record. -/
theorem outputs_without_data :
    let photo : Selection := ⟨"photo", "photo", none⟩
    execute Image.standardScalar (pictureRequest .declared "Image" [] .null) =
        .ok (.refused [nothingSelected]) ∧
      (∃ query, (Image.configuredScalar (pictureScalar "Query")).perform .initial =
          (.ok query, .initial) ∧
        execute query (pictureRequest .coded "Query" [photo] .null) =
          .ok (.refused [withoutSubfields "photo" (.named "Query")])) ∧
      (∃ mutation, (Image.configuredScalar (pictureScalar "Mutation")).perform .initial =
          (.ok mutation, .initial) ∧
        execute mutation (pictureRequest .declared "Mutation" [photo] .null) =
          .ok (.refused [notRootType "Mutation"])) ∧
      (∃ broken, (Image.configuredScalar (pictureScalar "Image\n")).perform .initial =
          (.ok broken, .initial) ∧
        execute broken (pictureRequest .declared "Image\n" [photo] .null) =
          .error (.undeclaredType (.ofText "Image\n"))) ∧
      execute Image.standardScalar (pictureRequest .declared "Image" [photo] (.bool true)) =
        .error .wrongArguments :=
  ⟨rfl, ⟨_, rfl, rfl⟩, ⟨_, rfl, rfl⟩, ⟨_, rfl, rfl⟩, rfl⟩

end CustomScalars.Execution
