import CustomScalars.RejectionKind
import CustomScalars.TypeKind
import CustomScalars.Value.Printer
import CustomScalars.Value.Writable

/-!
# Faults

What can go wrong, by cause. Configuration faults arise while scalars are defined, registered and
configured; binding faults are the configuration faults of attaching a definition to a schema.
Validation faults carry a rejected value to the engine. The rest are misuses of the functions
themselves, and parts that an engine's schema cannot have. Names are kept as they were given, so
that a report can return them unchanged.
-/
namespace CustomScalars

inductive Fault where
  | invalidName (name : Value)
  | reservedName (name : Value)
  | missingSerialize (name : Value)
  | unpairedInput (name : Value)
  | uncallableInput (name : Value)
  | notCollection (typeName : Value) (found : String)
  | noExtension (typeName : Value)
  | notDefinition (found : String)
  | alreadyRegistered (name : Value)
  | undeclaredType (name : Value)
  | notScalarType (name : Value) (declared : TypeKind)
  | rejectedValue (name : Value) (kind : RejectionKind) (message : String)
  | outputOnly (name : Value)
  | blankMessage
  /-- Where a number was read, it is known how many digits it has. -/
  | longNumber (digits : Option Nat)
  | frozenField (field : String)
  | missingName
  | wrongArguments
  | notCallable (found : String)
  | changeableKey (found : String)
  | notIterable (found : String)
  | notRecord (found : String)
  | absentSetting (setting : String)
  | notLiteral (found : String)
  | notText (found : String)
  | unwritable (found : String)
  | unreadableSchema
  | repeatedName (name : String)
  | unusableFieldName (name : String)
  | objectAsInput (name : String)
  | malformedName (name : String)

inductive FaultCategory where
  | configuration
  | binding
  | validation
  | wrongValue
  | frozen
  | wrongType
  | noAttribute
  | engine
  | syntaxOfSchema
  deriving DecidableEq

namespace FaultCategory

/-- The name under which a fault of this category is reported. -/
def name : FaultCategory → String
  | .configuration => "ScalarConfigurationError"
  | .binding => "ScalarBindingError"
  | .validation => "ScalarValidationError"
  | .wrongValue => "ValueError"
  | .frozen => "FrozenInstanceError"
  | .wrongType => "TypeError"
  | .noAttribute => "AttributeError"
  | .engine => "GraphQLError"
  | .syntaxOfSchema => "GraphQLSyntaxError"

/-- Every binding fault is a configuration fault. -/
def isConfiguration : FaultCategory → Bool
  | .configuration | .binding => true
  | _ => false

end FaultCategory

namespace Fault

def category : Fault → FaultCategory
  | .undeclaredType _ | .notScalarType _ _ => .binding
  | .rejectedValue _ _ _ | .outputOnly _ => .validation
  | .blankMessage | .longNumber _ => .wrongValue
  | .frozenField _ => .frozen
  | .missingName | .wrongArguments | .notCallable _ | .changeableKey _ | .notIterable _
  | .notText _ | .unwritable _ | .repeatedName _ | .unusableFieldName _ | .objectAsInput _ =>
    .wrongType
  | .notRecord _ | .absentSetting _ | .notLiteral _ => .noAttribute
  | .malformedName _ => .engine
  | .unreadableSchema => .syntaxOfSchema
  | _ => .configuration

def message : Fault → String
  | .invalidName name => s!"Invalid scalar name: {name.written}"
  | .reservedName name => s!"Scalar name '{name.display}' is reserved"
  | .missingSerialize name => s!"Scalar '{name.display}' requires a serialize function"
  | .unpairedInput name =>
    s!"Scalar '{name.display}' must define parse_value and parse_literal together"
  | .uncallableInput name => s!"Scalar '{name.display}' parse functions must be callable"
  | .notCollection typeName found =>
    s!"{typeName.display} extensions must be a list, tuple or set, got {found}"
  | .noExtension typeName => s!"{typeName.display} requires at least one recognized extension"
  | .notDefinition found => s!"Expected a ScalarDefinition, got {found}"
  | .alreadyRegistered name => s!"Scalar '{name.display}' is already registered"
  | .undeclaredType name => s!"Scalar '{name.display}' is not declared in the schema"
  | .notScalarType name declared =>
    s!"Type '{name.display}' is declared as {declared.engineName}, not as a scalar"
  | .rejectedValue _ _ message => message
  | .outputOnly name =>
    s!"{name.display} is an output-only scalar and cannot be used as input"
  | .blankMessage => "ScalarError requires a non-empty message"
  | .longNumber digits =>
    s!"Exceeds the limit ({Value.greatestDigits} digits) for integer string conversion" ++
      (digits.elim "" fun found => s!": value has {found} digits") ++
      "; use sys.set_int_max_str_digits() to increase the limit"
  | .frozenField field => s!"cannot assign to field {Value.quotedText field}"
  | .missingName => "a scalar definition requires a name"
  | .wrongArguments => "the function does not take these arguments"
  | .notCallable found => s!"'{found}' object is not callable"
  | .changeableKey found => s!"a value of type {found} cannot be a key"
  | .notIterable found => s!"a value of type {found} has no items"
  | .notRecord found => s!"a value of type {found} has no entries"
  | .absentSetting setting => s!"the host has no setting {setting}"
  | .notLiteral found => s!"a value of type {found} is no literal"
  | .notText found => s!"a value of type {found} is no text"
  | .unwritable found => s!"a value of type {found} cannot be written in a query"
  | .unreadableSchema => "the schema has a part that cannot be read"
  | .repeatedName name => s!"the name {name} is declared more than once"
  | .unusableFieldName name => s!"the name {name} cannot be given to a field"
  | .objectAsInput name => s!"the object type {name} cannot be the type of an argument"
  | .malformedName name => s!"the name {name} is not one that a schema can have"

/-- The scalar that the fault is about; null when it is about none. -/
def scalar : Fault → Value
  | .invalidName name | .reservedName name | .missingSerialize name | .unpairedInput name
  | .uncallableInput name | .notCollection name _ | .noExtension name | .alreadyRegistered name
  | .undeclaredType name | .notScalarType name _ | .rejectedValue name _ _ | .outputOnly name =>
    name
  | _ => .null

def kind : Fault → RejectionKind
  | .rejectedValue _ kind _ => kind
  | _ => .unspecified

end Fault

/-- What a caller is told of a fault. -/
structure Report where
  category : FaultCategory
  message : String
  scalar : Value
  kind : RejectionKind

namespace Report

/-- What travels to the client beside the message: the reason when one was given, and the scalar
when its name is not empty. -/
def extensions (report : Report) : Table Value :=
  (if report.kind.isSpecified then [("code", report.kind.code)] else []) ++
    (if report.scalar.truthy then [("scalar", report.scalar)] else [])

/-- A report put together from its parts. Only what is said of a rejected value has a reason. -/
def ofParts (category : FaultCategory) (message : String) (scalar : Value) :
    Option RejectionKind → Except Fault Report
  | none => .ok ⟨category, message, scalar, .unspecified⟩
  | some kind =>
    if category = .validation then .ok ⟨category, message, scalar, kind⟩
    else .error .wrongArguments

end Report

namespace Fault

/-- The fault that a caller learns of, which is another one if the name of the scalar that it is
about cannot be written. -/
def told (fault : Fault) : Fault :=
  if fault.scalar.isWritable then fault else .longNumber none

theorem told_of_isWritable (fault : Fault) (writable : fault.scalar.isWritable = true) :
    fault.told = fault := if_pos writable

def report (fault : Fault) : Report := ⟨fault.category, fault.message, fault.scalar, fault.kind⟩

def extensions (fault : Fault) : Table Value := fault.report.extensions

end Fault

end CustomScalars
