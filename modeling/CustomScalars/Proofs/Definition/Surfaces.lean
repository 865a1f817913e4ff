import CustomScalars.Proofs.Definition.Drafts
import CustomScalars.Proofs.Schema.Binding

/-!
# The surfaces of a definition

An engine reaches the functions of a definition in three ways: through the definition itself,
through the type that was made of it for a schema builder, and through the type of a schema that it
was the last one to be bound to. On all three it gets what the functions answer: the value that
they accept, or a fault that says what they reject and for which scalar. A scalar for output only
refuses all input there, and lets values out like any other.
-/
namespace CustomScalars

theorem RejectionKind.isSpecified_iff {kind : RejectionKind} :
    kind.isSpecified = true ↔ kind ≠ .unspecified := by
  cases kind with
  | custom value => cases value <;> simp [isSpecified, code, Value.isNull, unspecified]
  | _ => simp [isSpecified, code, Value.isNull, Value.ofText, unspecified]

namespace Definition

def Operation.isInput : Operation → Bool
  | .serialize _ => false
  | .parseValue _ | .parseLiteral _ _ => true

/-- What a scalar for output only says to whoever uses it for input. -/
def outputOnlyMessage (definition : Definition) : String :=
  s!"{definition.nameValue.display} is an output-only scalar and cannot be used as input"

/-- The fault tells an engine that the scalar rejects a value, and for what reason if there is
one. -/
structure Signals (definition : Definition) (fault : Fault) (reason : RejectionKind)
    (text : String) : Prop where
  category : fault.category = .validation
  message : fault.message = text
  kind : fault.kind = reason
  scalar : fault.scalar = definition.nameValue
  named : fault.extensions.lookup "scalar" = some definition.nameValue
  coded : reason ≠ .unspecified → fault.extensions.lookup "code" = some reason.code
  uncoded : reason = .unspecified → fault.extensions.lookup "code" = none

/-- Calls answer as the functions of the definition do. -/
structure Faithful (definition : Definition) (call : Operation → Except Fault Value) : Prop where
  accepted : ∀ operation value, definition.callContract operation = .ok (.accepted value) →
    call operation = .ok value
  rejected : ∀ operation kind message,
    definition.callContract operation = .ok (.rejected kind message) →
    ∃ fault, call operation = .error fault ∧ definition.Signals fault kind message
  outputOnly : definition.acceptsInput = false → ∀ operation, operation.isInput = true →
    ∃ fault, call operation = .error fault ∧
      definition.Signals fault .unspecified definition.outputOnlyMessage

section
variable {draft : Draft} {definition : Definition}

/-- A fault for a scalar that has a name lists the name, after the reason if there is one. -/
theorem signals_of_report (made : draft.MadeInto definition) (fault : Fault)
    (category : fault.category = .validation) (scalar : fault.scalar = definition.nameValue) :
    definition.Signals fault fault.kind fault.message := by
  have named := made.nameValue_truthy
  refine ⟨category, rfl, rfl, scalar, ?_, fun given => ?_, fun absent => ?_⟩
  · cases specified : fault.kind.isSpecified <;>
      simp [Fault.extensions, Fault.report, Report.extensions, scalar, named, specified,
        List.lookup_cons]
  · have specified := RejectionKind.isSpecified_iff.mpr given
    simp [Fault.extensions, Fault.report, Report.extensions, specified]
  · have unspecified : fault.kind.isSpecified = false := by
      rw [absent]
      rfl
    simp [Fault.extensions, Fault.report, Report.extensions, scalar, named, unspecified,
      List.lookup_cons]

/-- What the functions answer is handed on, whichever of them is called. -/
theorem callEngine_of_answered {operation : Operation} {verdict : Verdict}
    (answered : definition.callContract operation = .ok verdict) :
    definition.callEngine operation = definition.deliver verdict := by
  cases operation with
  | serialize value =>
    simp only [callContract] at answered
    rw [callEngine, engineSerialize, answered]
    rfl
  | parseValue value =>
    cases input : definition.input with
    | none => simp [callContract, contractParseValue, input] at answered
    | some functions =>
      simp only [callContract, contractParseValue, input] at answered
      simp only [callEngine, engineParseValue, input, answered]
      rfl
  | parseLiteral literal bindings =>
    cases input : definition.input with
    | none => simp [callContract, contractParseLiteral, input] at answered
    | some functions =>
      simp only [callContract, contractParseLiteral, input] at answered
      simp only [callEngine, engineParseLiteral, input, answered]
      rfl

theorem callEngine_of_outputOnly (without : definition.acceptsInput = false)
    (operation : Operation) (asks : operation.isInput = true) :
    definition.callEngine operation = .error (.outputOnly definition.nameValue) := by
  have none : definition.input = none := by simpa [acceptsInput] using without
  cases operation with
  | serialize value => cases asks
  | parseValue value => simp only [callEngine, engineParseValue, none]
  | parseLiteral literal bindings => simp only [callEngine, engineParseLiteral, none]

theorem faithful_callEngine (made : draft.MadeInto definition) :
    definition.Faithful definition.callEngine := by
  refine ⟨fun operation value answered => ?_, fun operation kind message answered => ?_,
    fun without operation asks => ?_⟩
  · exact callEngine_of_answered answered
  · refine ⟨_, callEngine_of_answered answered, ?_⟩
    exact signals_of_report made (.rejectedValue definition.nameValue kind message) rfl rfl
  · refine ⟨_, callEngine_of_outputOnly without operation asks, ?_⟩
    exact signals_of_report made (.outputOnly definition.nameValue) rfl rfl

theorem Faithful.of_eq {call other : Operation → Except Fault Value}
    (faithful : definition.Faithful call) (same : ∀ operation, other operation = call operation) :
    definition.Faithful other := by
  obtain rfl : other = call := funext same
  exact faithful

theorem toEngineType_call (definition : Definition) (operation : Operation) :
    definition.toEngineType.call operation = definition.callEngine operation := by
  cases operation <;> rfl

end

end Definition

namespace Schema

/-- The definition was the last one of its name to be bound to the schema: at the end of a list that
was bound, with nothing of its name bound since. -/
inductive LastBound (issued : Issued) : Schema → Prop where
  | bound {schema : Schema} {before : List Issued} {bound : Bound} :
      schema.Binds (before ++ [issued]) bound → bound.fault = none →
      LastBound issued bound.schema
  | kept {schema : Schema} {definitions : List Issued} {bound : Bound} : LastBound issued schema →
      schema.Binds definitions bound → issued.name ∉ bound.scalars →
      LastBound issued bound.schema

theorem bindOne_eq_ok {schema next : Schema} {issued : Issued}
    (bound : schema.bindOne issued = .ok next) :
    ∃ type : ScalarType, next = schema.put issued.name (.scalar (type.bind issued)) := by
  unfold bindOne at bound
  split at bound
  · cases bound
  · cases bound
  next type _ =>
    cases bound
    exact ⟨type, rfl⟩

theorem lookup_bindAll_of_unbound {schema : Schema} {definitions : List Issued} {name : String}
    (unbound : name ∉ (schema.bindAll definitions).scalars) :
    (schema.bindAll definitions).schema.lookup name = schema.lookup name := by
  induction definitions generalizing schema with
  | nil => rfl
  | cons issued rest ih =>
    cases first : schema.bindOne issued with
    | error fault => simp only [bindAll, first]
    | ok next =>
      simp only [bindAll, first, List.mem_cons, not_or] at unbound ⊢
      obtain ⟨type, rfl⟩ := bindOne_eq_ok first
      rw [ih unbound.2, Table.lookup_put, if_neg unbound.1]

/-- A list that is bound to its end leaves its last definition bound. -/
theorem boundTo_of_bindAll {schema : Schema} {before : List Issued} {issued : Issued}
    (done : (schema.bindAll (before ++ [issued])).fault = none) :
    ∃ type, (schema.bindAll (before ++ [issued])).schema.scalarType? issued.name = some type ∧
      type.BoundTo issued := by
  induction before generalizing schema with
  | nil =>
    cases bound : schema.bindOne issued with
    | error fault => simp [bindAll, bound] at done
    | ok next =>
      obtain ⟨type, rfl⟩ := bindOne_eq_ok bound
      refine ⟨type.bind issued, ?_, rfl, rfl, rfl⟩
      simp [bindAll, bound, scalarType?, Table.lookup_put]
  | cons first rest ih =>
    cases bound : schema.bindOne first with
    | error fault => simp [bindAll, bound] at done
    | ok next =>
      simp only [List.cons_append, bindAll, bound] at done ⊢
      exact ih done

theorem LastBound.boundTo {schema : Schema} {issued : Issued}
    (last : LastBound issued schema) :
    ∃ type, schema.scalarType? issued.name = some type ∧ type.BoundTo issued := by
  -- Binding other names in between leaves the type as it is.
  induction last with
  | bound binds done =>
    cases binds.eq_bindAll
    exact boundTo_of_bindAll done
  | kept _ binds unbound ih =>
    cases binds.eq_bindAll
    obtain ⟨type, declared, bound⟩ := ih
    refine ⟨type, ?_, bound⟩
    rwa [scalarType?, lookup_bindAll_of_unbound unbound]

end Schema

/-- A definition that is made has both functions for input or neither, and on every surface an
engine gets from it what its functions answer: through the definition itself, through the type that
is made of it, and through the type of a schema to which it was the last of its name to be bound. -/
theorem Definition.surfaces_faithful {draft : Draft} {definition : Definition}
    (made : Definition.ofDraft draft = .ok definition) :
    draft.MadeInto definition ∧
      definition.Faithful definition.callEngine ∧
      definition.Faithful definition.toEngineType.call ∧
      ∀ issued schema, issued.definition = definition → Schema.LastBound issued schema →
        ∃ type, schema.scalarType? definition.name = some type ∧ definition.Faithful type.call := by
  have parts := Definition.madeInto_of_ofDraft made
  have engine := Definition.faithful_callEngine parts
  -- The other two surfaces answer every call as the first one does.
  refine ⟨parts, engine, engine.of_eq definition.toEngineType_call, ?_⟩
  rintro issued schema rfl last
  obtain ⟨type, declared, bound⟩ := last.boundTo
  exact ⟨type, declared, engine.of_eq bound.call⟩

/-- A scalar for output only that rejects whatever leaves the server, declared in a schema and bound
there: through the definition it refuses input, and through the schema it says that values are
odd. -/
theorem Definition.surfaces_faithful_of_even :
    let odd := RejectionKind.custom (.ofText "ODD")
    let draft : Draft :=
      ⟨some (.ofText "Even"), .null, .callable (.constant (.ok (.rejected odd "odd"))), .absent,
        .absent⟩
    let schema := Schema.ofDeclarations [⟨"Even", .scalar, .null⟩]
    ∃ definition, Definition.ofDraft draft = .ok definition ∧
      (∃ fault, definition.callEngine (.parseValue (.int none 2)) = .error fault ∧
        definition.Signals fault .unspecified
          "Even is an output-only scalar and cannot be used as input") ∧
      ∃ bound, schema.Binds [⟨1, definition⟩] bound ∧
        ∃ type, bound.schema.scalarType? "Even" = some type ∧
        ∃ fault, type.call (.serialize (.int none 3)) = .error fault ∧
          definition.Signals fault odd "odd" := by
  intro odd draft schema
  have made : ∃ definition, Definition.ofDraft draft = .ok definition ∧
      definition.name = "Even" ∧ definition.acceptsInput = false ∧
      definition.outputOnlyMessage = "Even is an output-only scalar and cannot be used as input" ∧
      (schema.bindAll [⟨1, definition⟩]).fault = none ∧
      definition.callContract (.serialize (.int none 3)) = .ok (.rejected odd "odd") :=
    ⟨_, rfl, rfl, rfl, rfl, rfl, rfl⟩
  obtain ⟨definition, made, name, outputOnly, message, done, rejected⟩ := made
  obtain ⟨-, engine, -, bound⟩ := Definition.surfaces_faithful made
  have binds : schema.Binds ([] ++ [⟨1, definition⟩]) (schema.bindAll [⟨1, definition⟩]) :=
    schema.binds_bindAll _
  obtain ⟨type, declared, faithful⟩ := bound ⟨1, definition⟩ _ rfl (.bound binds done)
  refine ⟨definition, made, ?_, _, binds, type, name ▸ declared,
    faithful.rejected _ _ _ rejected⟩
  rw [← message]
  exact engine.outputOnly outputOnly (.parseValue (.int none 2)) rfl

end CustomScalars
