import CustomScalars.Execution.Response

/-!
# What becomes of a request

A request is refused, with errors and nothing else, or it is admitted and its fields are run one
after another. What a run comes to is put together from what its fields come to: a field that
settles adds its value, its errors and its calls, and one that does not leaves no data at all.
-/
namespace CustomScalars.Execution

/-- No name that is free is one of the reserved ones. -/
theorem beq_false_of_reserved {name : String} (free : beginsReserved name = false) (other : String)
    (reserved : beginsReserved other = true) : (name == other) = false := by
  refine beq_false_of_ne fun same => ?_
  rw [same, reserved] at free
  cases free

theorem ResponseError.capped_eq_nil_iff {limit : Nat} {notice : String}
    {errors : List ResponseError} : capped limit notice errors = [] ↔ errors = [] := by
  unfold capped
  split
  next longer =>
    have some : errors ≠ [] := by
      rintro rfl
      exact absurd longer (Nat.not_lt_zero limit)
    simp [some]
  · rfl

/-- Everything is in order before the fields are run. -/
structure Admitted (definition : Definition) (request : Request) (entries bindings : Table Value) :
    Prop where
  schema : schemaErrors definition request = []
  readable : syntaxErrors request = []
  valid : validationErrors definition request = []
  operation : request.operation.filter (· ≠ operationName) = none
  supplied : suppliedEntries request.supplied = .ok entries
  coerced : coerceDeclarations definition entries request.declarations = (bindings, [])

/-- The text of a request that selects something, under names alone, can be read. -/
theorem syntaxErrors_of_named {request : Request} (selects : request.selections ≠ [])
    (named : ∀ selection ∈ request.selections, SchemaText.isPlainName selection.key = true) :
    syntaxErrors request = [] := by
  have nonempty : request.selections.isEmpty = false := by simpa using selects
  have readable : (request.selections.find? fun selection =>
      !SchemaText.isPlainName selection.key) = none :=
    List.find?_eq_none.mpr fun selection member => by simp [named selection member]
  simp only [syntaxErrors, nonempty, Bool.false_eq_true, if_false, readable]

/-- All the ways in which a request is answered. -/
inductive Answers (definition : Definition) (request : Request) : Except Fault Response → Prop where
  | refused {errors : List ResponseError} : errors ≠ [] →
      Answers definition request (.ok (.refused errors))
  | unsupplied {fault : Fault} : validationErrors definition request = [] →
      suppliedEntries request.supplied = .error fault →
      Answers definition request (.error fault)
  | run {entries bindings : Table Value} : Admitted definition request entries bindings →
      Answers definition request
        (.ok (runFields definition request bindings (merged request.selections)))

theorem answer_answers (definition : Definition) (request : Request) :
    Answers definition request (answer definition request) := by
  unfold answer
  split
  next schema =>
    split
    next readable =>
      split
      next valid =>
        have valid := ResponseError.capped_eq_nil_iff.mp valid
        cases supplied : suppliedEntries request.supplied with
        | error fault => exact .unsupplied valid supplied
        | ok entries =>
          simp only [Except.map, run]
          -- What is left is what a valid request can still be refused for.
          split
          next other _ => exact .refused (List.cons_ne_nil _ _)
          next operation =>
            simp only [coerceVariables]
            cases coerced : coerceDeclarations definition entries request.declarations with
            | mk bindings errors =>
              cases errors with
              | nil =>
                exact .run ⟨schema, readable, valid, operation, supplied, coerced⟩
              | cons error others =>
                cases wrong : ResponseError.capped coercionLimit coercionNotice
                    (error :: others) with
                | nil => cases ResponseError.capped_eq_nil_iff.mp wrong
                | cons first rest => exact .refused (List.cons_ne_nil _ _)
      next wrong => exact .refused wrong
    next wrong => exact .refused wrong
  next wrong => exact .refused wrong

theorem answer_of_admitted {definition : Definition} {request : Request}
    {entries bindings : Table Value} (admitted : Admitted definition request entries bindings) :
    answer definition request =
      .ok (runFields definition request bindings (merged request.selections)) := by
  have valid : validate definition request = [] :=
    ResponseError.capped_eq_nil_iff.mpr admitted.valid
  simp only [answer, admitted.schema, admitted.readable, valid, admitted.supplied, Except.map, run,
    admitted.operation, coerceVariables, admitted.coerced]
  rfl

/-- Nothing but errors. -/
def Refuses (definition : Definition) (request : Request) : Prop :=
  ∃ errors, errors ≠ [] ∧ execute definition request = .ok (.refused errors)

section
variable {definition : Definition} {request made : Request}

theorem execute_of_constructed (constructs : constructed definition request = .ok made) :
    execute definition request = answer definition made := by
  rw [execute, constructs]
  rfl

theorem refuses_of_invalid (constructs : constructed definition request = .ok made)
    (invalid : validationErrors definition made ≠ []) : Refuses definition request := by
  rw [Refuses, execute_of_constructed constructs]
  have answers := answer_answers definition made
  generalize answer definition made = result at answers ⊢
  cases answers with
  | refused some => exact ⟨_, some, rfl⟩
  | unsupplied valid _ => exact absurd valid invalid
  | run admitted => exact absurd admitted.valid invalid

theorem refuses_of_uncoerced (constructs : constructed definition request = .ok made)
    {entries : Table Value} (supplied : suppliedEntries made.supplied = .ok entries)
    (wrong : (coerceDeclarations definition entries made.declarations).2 ≠ []) :
    Refuses definition request := by
  rw [Refuses, execute_of_constructed constructs]
  have answers := answer_answers definition made
  generalize answer definition made = result at answers ⊢
  cases answers with
  | refused some => exact ⟨_, some, rfl⟩
  | unsupplied _ fault =>
    rw [supplied] at fault
    cases fault
  | run admitted =>
    obtain rfl := Except.ok.inj (supplied.symm.trans admitted.supplied)
    rw [admitted.coerced] at wrong
    exact absurd rfl wrong

end

section
variable {definition : Definition} {request : Request} {bindings : Table Value}
  {selections : List Selection}

/-- What a field comes to after it was given its place in the answer. -/
def settled (definition : Definition) (request : Request) (bindings : Table Value)
    (selection : Selection) : Completion :=
  let outcome := runField definition request bindings selection
  outcome.completion.settle outcome.nullable

/-- Fields that settle and call nothing are answered one by one. -/
theorem runFields_of_settled {shown : Selection → Value}
    {errors : Selection → List ResponseError}
    (each : ∀ selection ∈ selections,
      settled definition request bindings selection = ⟨.ok (shown selection), errors selection⟩ ∧
        (runField definition request bindings selection).calls = []) :
    runFields definition request bindings selections =
      ⟨some (selections.map fun selection => (selection.key, shown selection)),
        selections.flatMap errors, []⟩ := by
  -- The induction is on the selections, as the fields run one after another.
  induction selections with
  | nil => rfl
  | cons selection rest ih =>
    obtain ⟨settles, silent⟩ := each selection List.mem_cons_self
    have later := ih fun other member => each other (List.mem_cons_of_mem _ member)
    simp only [settled] at settles
    simp [runFields, settles, silent, later, Response.after]

/-- One field that does not settle leaves no data, wherever it stands. -/
theorem data_runFields_of_unsettled {selection : Selection} (member : selection ∈ selections)
    {error : ResponseError}
    (fails : (settled definition request bindings selection).result = .error error) :
    (runFields definition request bindings selections).data = none := by
  induction selections with
  | nil => cases member
  | cons first rest ih =>
    simp only [runFields]
    split
    next => rfl
    next value settles =>
      -- The first field has settled, so it is not the one that fails.
      rcases List.mem_cons.mp member with rfl | later
      · rw [settled, settles] at fails
        cases fails
      · simp [Response.after, ih later]

/-- Whatever was handed to a resolver was handed to that of a selected field. -/
theorem exists_of_mem_calls_runFields {value : Value}
    (called : value ∈ (runFields definition request bindings selections).calls) :
    ∃ selection ∈ selections,
      value ∈ (runField definition request bindings selection).calls := by
  induction selections with
  | nil => cases called
  | cons first rest ih =>
    simp only [runFields] at called
    split at called
    next => exact ⟨first, List.mem_cons_self, called⟩
    next =>
      rcases List.mem_append.mp called with here | later
      · exact ⟨first, List.mem_cons_self, here⟩
      · obtain ⟨selection, member, calls⟩ := ih later
        exact ⟨selection, List.mem_cons_of_mem _ member, calls⟩

end

end CustomScalars.Execution
