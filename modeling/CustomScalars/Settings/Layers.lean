import CustomScalars.Image.Extension
import CustomScalars.Settings.Host
import CustomScalars.ValueTable

/-!
# Layered settings

A setting is looked up in four layers, the most special first: what was configured at run time for
a schema, what the host says for the schema, what the host says for all schemas, and the library's
own defaults. The first two are there only when a schema is named, and the host's two only when the
host is configured. Each layer is walked along the segments of the key. A layer that does not lead
to a value other than null hides nothing. A schema that cannot be written is refused by all layers.
-/
namespace CustomScalars.Settings

/-- Settings sections by name. -/
abbrev Sections := Table Value

structure Layers where
  runtime : ValueTable Sections
  host : Option Host

/-- The segments of a dotted key. -/
def path (key : String) : List String := (Text.splitEvery '.' key.toList).map String.ofList

/-- The value at the end of a path through records; a null there counts as absent. -/
def walk : Value → List String → Option Value
  | value, [] => if value.isNull then none else some value
  | .record _ entries, name :: rest =>
    match (Value.named entries).lookup name with
    | some value => walk value rest
    | none => none
  | _, _ :: _ => none

theorem walk_ne_null {value found : Value} {path : List String}
    (reached : walk value path = some found) : found.isNull = false := by
  fun_induction walk value path with
  | case1 value null => simp at reached
  | case2 value present =>
    simp only [Option.some.injEq] at reached
    subst reached
    simpa using present
  | case3 brand entries name rest value here ih => exact ih reached
  | case4 => simp at reached
  | case5 => simp at reached

def defaults : Value :=
  .ofEntries
    [("custom_scalars", .ofEntries
      [("Image", .ofEntries
        [("enabled", .bool true),
         ("extensions", .ofTexts Image.recognizedExtensions),
         ("case_sensitive", .bool false)])])]

/-- The schema that a lookup is for: the one asked for, else the reader's own; an empty one is
none. -/
def effectiveSchema (asked own : Value) : Option Value :=
  if asked.truthy then some asked else if own.truthy then some own else none

/-- The host's records for single schemas: none when the setting is absent or empty. -/
def Host.schemaEntries (host : Host) : Except Fault (ValueTable Value) :=
  match host.bySchema with
  | none => .ok []
  | some value =>
    if value.truthy then
      match value.record? with
      | some entries => .ok entries
      | none => .error (.notRecord value.typeName)
    else .ok []

namespace Layers

def inRuntime (layers : Layers) (schema : Value) (path : List String) :
    Except Fault (Option Value) := do
  let sections ← layers.runtime.find schema
  return sections.bind fun entries => walk (.ofEntries entries) path

def inSchema (layers : Layers) (schema : Value) (path : List String) :
    Except Fault (Option Value) :=
  match layers.host with
  | none => .ok none
  | some host => do
    let entries ← host.schemaEntries
    let entry ← entries.find schema
    return entry.bind fun settings => walk settings path

def inShared (layers : Layers) (path : List String) : Option Value :=
  layers.host.bind fun host => host.shared.bind fun settings => walk settings path

/-- The two layers that do not depend on the schema. -/
def inGeneral (layers : Layers) (path : List String) : Option Value :=
  (layers.inShared path).orElse fun _ => walk defaults path

/-- The first value that a layer leads to. A layer is consulted only when those before it led to
nothing, so a fault in it goes unnoticed otherwise. -/
def resolve (layers : Layers) (schema : Option Value) (path : List String) :
    Except Fault (Option Value) :=
  match schema with
  | none => .ok (layers.inGeneral path)
  | some name => do
    name.checkWritable
    match ← layers.inRuntime name path with
    | some value => return some value
    | none =>
      let found ← layers.inSchema name path
      return found.orElse fun _ => layers.inGeneral path

end Layers

end CustomScalars.Settings
