import CustomScalars.Session.Basic

/-!
# The steps of a session

Each step is an action on the session, most of them an action of the library with names put in and
taken out. A name that stands for nothing is a misuse.
-/
namespace CustomScalars.Session

namespace Act

def ofExcept {α : Type} : Except Fault α → Act α
  | .ok value => pure value
  | .error fault => throw fault

def ofAction {α : Type} (action : Action α) : Act α := fun session =>
  let (answer, library) := action session.library
  (answer, { session with library := library })

def named {α : Type} (table : Session → Table α) (name : String) : Act α := do
  let session ← get
  match (table session).lookup name with
  | some thing => return thing
  | none => throw (.notCallable name)

def changeSettings (change : Settings → Settings) : Act Answer := do
  modify fun session =>
    { session with library := session.library.changeSettings change }
  return .nothing

end Act

/-- The name under which the session knows a definition. -/
def handleOf (session : Session) (issued : Issued) : Option String :=
  (session.definitions.find? fun entry => entry.2.serial == issued.serial).map Prod.fst

def listing (session : Session) (registry : Registry) : Listing :=
  registry.map fun entry => (entry.1, session.handleOf entry.2)

def typeListing (session : Session) (schema : Schema) : List TypeListing :=
  schema.scalarTypes.map fun entry =>
    ⟨entry.1, entry.2.description, entry.2.serialize.bind session.handleOf,
      entry.2.parseValue.bind session.handleOf, entry.2.parseLiteral.bind session.handleOf⟩

/-- Give a new definition a serial number and a name. -/
def issue (handle : String) (definition : Definition) : Act Answer := do
  modify fun session =>
    { session with
      definitions := session.definitions.put handle ⟨session.nextSerial, definition⟩
      nextSerial := session.nextSerial + 1 }
  return .definition definition

def listScalars (registry : Registry) : Act Answer := do
  let session ← get
  return .scalars (session.listing registry)

def register (handle : String) (replacing : Value) : Act Answer := do
  let issued ← Act.named definitions handle
  Act.ofAction (Registry.register issued replacing.truthy)
  listScalars (← get).library.registry

def unregister (name : Value) : Act Answer := do
  let removed ← Act.ofAction (Registry.unregister name)
  let session ← get
  return .removed (removed.bind session.handleOf) (session.listing session.library.registry)

def findByName (name : Value) : Act Answer := do
  let issued ← Act.ofAction (Registry.findByName name)
  let session ← get
  return .found (issued.bind session.handleOf)

def remove (setting : Settings.HostSetting) : Act Answer := do
  let (removed, settings) := (← get).library.settings.remove setting
  let answer ← Act.changeSettings fun _ => settings
  Act.ofExcept removed
  return answer

/-- The name of the schema is given beside the sections, so no section can have that parameter's
name. -/
def schemaParameter : String := "schema_name"

/-- Sections are given by names, so no key is anything but a text. -/
def sections (overrides : Value) : Except Fault Settings.Sections :=
  match overrides.record? with
  | some entries =>
    let sections := Value.named entries
    if sections.length < entries.length || sections.names.contains schemaParameter then
      .error .wrongArguments
    else .ok sections
  | none => .error .wrongArguments

def configure (schema overrides : Value) : Act Answer := do
  let entries ← Act.ofExcept (sections overrides)
  let session ← get
  let settings ← Act.ofExcept (session.library.settings.configure schema entries)
  Act.changeSettings fun _ => settings

def makeReader (handle : String) (schema : Value) : Act Answer := do
  modify fun session => { session with readers := session.readers.put handle (.fresh schema) }
  return .nothing

def clearMemory : Option String → Act Answer
  | none => Act.changeSettings Settings.clear
  | some handle => do
    let reader ← Act.named readers handle
    modify fun session => { session with readers := session.readers.put handle reader.clear }
    return .nothing

def read (key : String) (fallback schema : Value) : Option String → Act Answer
  | none => do return .value (← Act.ofAction (Action.readSetting key fallback schema))
  | some handle => do
    let reader ← Act.named readers handle
    let session ← get
    let (answer, after) := reader.read session.library.settings.layers key fallback schema
    set { session with readers := session.readers.put handle after }
    return .value (← Act.ofExcept answer)

def makeSchema (handle : String) (declarations : List Declaration) : Act Answer := do
  let schema ← Act.ofExcept (Schema.declare declarations)
  modify fun session => { session with schemas := session.schemas.put handle schema }
  return .types ((← get).typeListing schema)

/-- The schema is changed even where binding stops halfway. -/
def bind (handle : String) (handles : List String) : Act Answer := do
  let schema ← Act.named schemas handle
  let definitions ← handles.mapM (Act.named definitions)
  let bound ← Act.ofAction (schema.bindScalars definitions)
  modify fun session => { session with schemas := session.schemas.put handle bound.schema }
  match bound.fault with
  | some fault => throw fault
  | none => return .bound ((← get).typeListing bound.schema)

def callType (handle name : String) (operation : Definition.Operation) : Act Answer := do
  let schema ← Act.named schemas handle
  match schema.scalarType? name with
  | some type => return .call (.value (← Act.ofExcept (type.call operation)))
  | none => throw (.notCallable name)

def startUp (validateOnly : Bool) (debug : Option Value) : Act Answer := do
  let action := if validateOnly then Startup.validate else Startup.ready
  Act.ofAction (Startup.underDebug debug action)
  return .nothing

def act : Step → Act Answer
  | .refused fault => throw fault
  | .define handle draft => do issue handle (← Act.ofExcept (Definition.ofDraft draft))
  | .buildImage handle request => do
    issue handle (← Act.ofAction (Image.configuredScalar request))
  | .describe handle => do return .definition (← Act.named definitions handle).definition
  | .mutate handle field => do
    let _ ← Act.named definitions handle
    throw (.frozenField field)
  | .toEngineType handle => do
    let issued ← Act.named definitions handle
    return .engineType issued.definition.toEngineType ((← get).handleOf issued)
  | .call handle surface operation => do
    let issued ← Act.named definitions handle
    return .call (← Act.ofExcept (issued.definition.call surface operation))
  | .register handle replacing => register handle replacing
  | .registerValue value => throw (.notDefinition value.typeName)
  | .unregister name => unregister name
  | .registry => do listScalars (← get).library.registry
  | .findByName name => findByName name
  | .enabled schema => do listScalars (← Act.ofAction (Registry.enabled schema))
  | .enter shared bySchema =>
    Act.changeSettings fun settings => settings.enter shared bySchema
  | .leave => Act.changeSettings Settings.leave
  | .assign setting value => Act.changeSettings fun settings => settings.assign setting value
  | .remove setting => remove setting
  | .announce setting => Act.changeSettings fun settings => settings.announce setting
  | .unconfigure => Act.changeSettings Settings.unconfigure
  | .reconfigure => Act.changeSettings Settings.reconfigure
  | .configure schema overrides => configure schema overrides
  | .runtime => do return .runtime (← get).library.settings.runtime.contents
  | .makeReader handle schema => makeReader handle schema
  | .clearMemory reader => clearMemory reader
  | .read key fallback schema reader => read key fallback schema reader
  | .makeSchema handle declarations => makeSchema handle declarations
  | .bind schema handles => bind schema handles
  | .types schema => do
    let declared ← Act.named schemas schema
    return .types ((← get).typeListing declared)
  | .callType schema type operation => callType schema type operation
  | .startUp validateOnly debug => startUp validateOnly debug

/-- Take a step: its answer or fault, what it reported, and the session after it. -/
def step (session : Session) (step : Step) : Except Fault Answer × List Event × Session :=
  let quiet := { session with library := { session.library with events := [] } }
  let (answer, after) := (act step).run.run quiet
  (answer, after.library.events, after)

def run : Session → List Step → List (Except Fault Answer × List Event)
  | _, [] => []
  | session, first :: rest =>
    let (answer, events, after) := session.step first
    (answer, events) :: run after rest

end CustomScalars.Session
