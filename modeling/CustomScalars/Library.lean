import CustomScalars.About
import CustomScalars.Image.Scalar
import CustomScalars.Settings.Overrides

/-!
# The library in use

What the library knows while it is in use: its settings, the scalars registered with it, and what
it has reported so far. An action may read and change all of it and may end in a fault; what it
changed and reported before the fault stays.

Definitions hold functions and cannot be compared, so each definition that is issued carries a
serial number, and it is the serial numbers that tell two of them apart.
-/
namespace CustomScalars

structure Issued where
  serial : Nat
  definition : Definition

namespace Issued

/-- The standard image scalar is there from the start. -/
def standard : Issued := ⟨0, Image.standardScalar⟩

def name (issued : Issued) : String := issued.definition.name

end Issued

abbrev Registry := Table Issued

namespace Registry

def initial : Registry := [(Image.standardName, .standard)]

end Registry

inductive Level where
  | debug
  | info
  | warning
  | error
  deriving DecidableEq

namespace Level

def name : Level → String
  | .debug => "DEBUG"
  | .info => "INFO"
  | .warning => "WARNING"
  | .error => "ERROR"

end Level

inductive Event where
  | replacing (scalar : String)
  | registered (scalar : String)
  | disabled (scalar : String) (schema : Value)
  | bound (scalar : String)
  | enabled (schema : Value) (scalars : List String)
  | invalid (fault : Fault)

namespace Event

def level : Event → Level
  | .replacing _ => .warning
  | .registered _ | .disabled _ _ | .bound _ => .debug
  | .enabled _ _ => .info
  | .invalid _ => .error

/-- Only configuration faults explain themselves; of any other the category is reported. -/
def faultText (fault : Fault) : String :=
  if fault.category.isConfiguration then fault.message else "<" ++ fault.category.name ++ ">"

def scalarsText (scalars : List String) : String :=
  if scalars.isEmpty then "none" else Value.joined ", " (Text.orderedSet scalars)

def schemaText (schema : Value) : String := if schema.truthy then schema.display else "default"

def message : Event → String
  | .replacing scalar => s!"Replacing registered scalar '{scalar}'"
  | .registered scalar => s!"Registered custom scalar '{scalar}'"
  | .disabled scalar schema => s!"Scalar '{scalar}' disabled for schema {schema.display}"
  | .bound scalar => s!"Bound scalar '{scalar}' onto schema"
  | .enabled schema scalars =>
    s!"Enabled scalars for schema {schemaText schema}: {scalarsText scalars}"
  | .invalid fault => s!"Invalid {About.name} configuration: {faultText fault}"

end Event

structure Library where
  settings : Settings
  registry : Registry
  events : List Event

namespace Library

def initial : Library := ⟨.initial, .initial, []⟩

def changeSettings (library : Library) (change : Settings → Settings) : Library :=
  { library with settings := change library.settings }

end Library

abbrev Action (α : Type) := ExceptT Fault (StateM Library) α

namespace Action

/-- The answer of an action and the library after it. -/
def perform {α : Type} (action : Action α) (library : Library) : Except Fault α × Library :=
  action library

def ofExcept {α : Type} : Except Fault α → Action α
  | .ok value => pure value
  | .error fault => throw fault

def report (event : Event) : Action Unit :=
  modify fun library => { library with events := library.events ++ [event] }

/-- Whatever asks the host for a setting directly makes sure first that there is a host. -/
def ensureHost : Action Unit := modify fun library => library.changeSettings Settings.ensureHost

def readSetting (key : String) (fallback schema : Value) : Action Value := do
  let library ← get
  let (answer, settings) := library.settings.read key fallback schema
  set { library with settings := settings }
  ofExcept answer

/-- The value if one was given, and the setting otherwise. -/
def orSetting (given : Value) (key : String) (fallback schema : Value) : Action Value :=
  if given.isNull then readSetting key fallback schema else pure given

end Action

end CustomScalars
