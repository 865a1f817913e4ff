import CustomScalars.Settings.Layers

/-!
# Readers with a memory

A reader looks settings up and remembers what it found, under one text made of the schema and the
key. What it did not find it does not remember, so a fallback is never kept. The memory knows
nothing of changes to the layers: whoever changes them has to clear it.
-/
namespace CustomScalars.Settings

structure Reader where
  schema : Value
  memory : Table Value

namespace Reader

def fresh (schema : Value) : Reader := ⟨schema, []⟩

/-- The text under which a lookup is remembered. -/
def memoryName (schema : Option Value) (key : String) : String :=
  match schema with
  | some name => name.display ++ ":" ++ key
  | none => "global:" ++ key

def clear (reader : Reader) : Reader := { reader with memory := [] }

def remember (reader : Reader) (name : String) (value : Value) : Reader :=
  { reader with memory := reader.memory.put name value }

/-- What is remembered of a lookup. Nothing is remembered for a schema that cannot be written, which
the layers refuse as well. -/
def recalled (reader : Reader) (schema : Option Value) (key : String) : Option Value :=
  if schema.all Value.isWritable then reader.memory.lookup (memoryName schema key) else none

/-- Answer a lookup, together with the reader as it is afterwards. -/
def read (reader : Reader) (layers : Layers) (key : String) (fallback asked : Value) :
    Except Fault Value × Reader :=
  let schema := effectiveSchema asked reader.schema
  match reader.recalled schema key with
  | some value => (.ok value, reader)
  | none =>
    match layers.resolve schema (path key) with
    | .error fault => (.error fault, reader)
    | .ok none => (.ok fallback, reader)
    | .ok (some value) => (.ok value, reader.remember (memoryName schema key) value)

end Reader

end CustomScalars.Settings
