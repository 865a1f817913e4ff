import CustomScalars.Library

/-!
# Registering scalars

Scalars are registered under their own names. A name is taken by one definition at a time: giving
it to another one has to be asked for. Which of the registered scalars a schema may use is a matter
of settings; a scalar about which they say nothing is enabled.
-/
namespace CustomScalars.Registry

def isTakenFrom (registry : Registry) (issued : Issued) : Bool :=
  match registry.lookup issued.name with
  | some present => present.serial != issued.serial
  | none => false

def register (issued : Issued) (replacing : Bool) : Action Unit := do
  let library ← get
  if library.registry.isTakenFrom issued then
    if replacing then Action.report (.replacing issued.name)
    else throw (.alreadyRegistered issued.definition.nameValue)
  modify fun library => { library with registry := library.registry.put issued.name issued }
  Action.report (.registered issued.name)

def findByName (name : Value) : Action (Option Issued) := do
  let library ← get
  Action.ofExcept (library.registry.find name)

/-- Take a scalar out of the registry and hand it back. In an empty registry nothing is looked
for. -/
def unregister (name : Value) : Action (Option Issued) := do
  let library ← get
  if library.registry.isEmpty then return none
  match ← Action.ofExcept name.keyName? with
  | none => return none
  | some key =>
    set { library with registry := library.registry.remove key }
    return library.registry.lookup key

def enabledKey (scalar : String) : String := s!"custom_scalars.{scalar}.enabled"

def enabledAmong (schema : Value) : Registry → Action Registry
  | [] => return []
  | (scalar, issued) :: rest => do
    let setting ← Action.readSetting (enabledKey scalar) (.bool true) schema
    if setting.truthy then
      let others ← enabledAmong schema rest
      return (scalar, issued) :: others
    else
      Action.report (.disabled scalar schema)
      enabledAmong schema rest

/-- The scalars enabled for a schema, in the order of the registry. -/
def enabled (schema : Value) : Action Registry := do
  let library ← get
  enabledAmong schema library.registry

end CustomScalars.Registry
