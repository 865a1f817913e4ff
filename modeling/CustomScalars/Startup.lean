import CustomScalars.Image.Configured
import CustomScalars.Registry

/-!
# Checking the settings at startup

Before the first request, the scalars enabled for each schema are listed and an image scalar is
built wherever it is enabled, so that bad settings are noticed early. A fault is always reported;
it stops the start only in debug mode.
-/
namespace CustomScalars.Startup

/-- The schemas to check: none in particular, and then each one that the host's settings name. What
can be gone through once names none when that was done. -/
def schemas (settings : Settings) : Except Fault (List Value) :=
  match settings.schemas with
  | none => .ok [.null]
  | some value =>
    if value.truthy then
      if value.isPassing && settings.isSpent then .ok [.null]
      else
        match value.parts? with
        | some names => .ok (.null :: names)
        | none => .error (.notIterable value.typeName)
    else .ok [.null]

def validateSchema (schema : Value) : Action Unit := do
  let enabled ← Registry.enabled schema
  if (enabled.lookup Image.standardName).isSome then
    let _ ← Image.configuredScalar { Image.Request.standard with schema := schema }
  Action.report (.enabled schema enabled.names)

def validateEach : List Value → Action Unit
  | [] => return
  | schema :: rest => do
    validateSchema schema
    validateEach rest

def validate : Action Unit := do
  Action.ensureHost
  let library ← get
  let names ← Action.ofExcept (schemas library.settings)
  modify fun library => library.changeSettings Settings.useUp
  validateEach names

def debugMode (settings : Settings) : Bool :=
  ((settings.layers.host.bind Settings.Host.debug).getD .null).truthy

/-- Report a fault, and go on without it unless in debug mode. -/
def handle (fault : Fault) : Action Unit := do
  Action.report (.invalid fault)
  let library ← get
  if debugMode library.settings then throw fault

def ready : Action Unit := tryCatch validate handle

/-- Run an action under another debug mode, if one is given: on a level of its own, after which
the host is asked what the mode is now. -/
def underDebug {α : Type} (debug : Option Value) (action : Action α) : Action α :=
  match debug with
  | none => action
  | some value => fun library =>
    let levels := library.settings.levels
    let debugging := library.changeSettings fun settings =>
      settings.addLevel none none (some value)
    let (answer, after) := action debugging
    (answer, after.changeSettings fun settings => { settings with levels := levels }.ensureHost)

end CustomScalars.Startup
