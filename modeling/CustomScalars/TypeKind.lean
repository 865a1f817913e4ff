/-!
# Kinds of schema type
-/
namespace CustomScalars

inductive TypeKind where
  | scalar
  | object
  | interface
  | union
  | enumeration
  | inputObject
  deriving DecidableEq

namespace TypeKind

/-- The name under which the engine reports a type of this kind. -/
def engineName : TypeKind → String
  | .scalar => "GraphQLScalarType"
  | .object => "GraphQLObjectType"
  | .interface => "GraphQLInterfaceType"
  | .union => "GraphQLUnionType"
  | .enumeration => "GraphQLEnumType"
  | .inputObject => "GraphQLInputObjectType"

end TypeKind

end CustomScalars
