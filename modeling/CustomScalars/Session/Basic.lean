import CustomScalars.Schema
import CustomScalars.Startup

/-!
# Sessions

A session is the library in use together with names for what was made in it: definitions, schemas
and readers of settings. It is changed step by step. A step that ends in a fault does not end the
session, and what it did before the fault stays done.
-/
namespace CustomScalars

structure Session where
  library : Library
  definitions : Table Issued
  schemas : Table Schema
  readers : Table Settings.Reader
  /-- The serial number of the next definition. -/
  nextSerial : Nat

namespace Session

def standardHandle : String := "IMAGE"

def initial : Session where
  library := .initial
  definitions := [(standardHandle, .standard)]
  schemas := []
  readers := []
  nextSerial := 1

/-- What can be done in one step. Definitions, schemas and readers are given by their names. A step
whose arguments could not be made is refused before it does anything. -/
inductive Step where
  | refused (fault : Fault)
  | define (handle : String) (draft : Draft)
  | buildImage (handle : String) (request : Image.Request)
  | describe (handle : String)
  | mutate (handle field : String)
  | toEngineType (handle : String)
  | call (handle : String) (surface : Definition.Surface) (operation : Definition.Operation)
  | register (handle : String) (replacing : Value)
  | registerValue (value : Value)
  | unregister (name : Value)
  | registry
  | findByName (name : Value)
  | enabled (schema : Value)
  | enter (shared bySchema : Option Value)
  | leave
  | assign (setting : Settings.HostSetting) (value : Value)
  | remove (setting : Settings.HostSetting)
  | announce (setting : Option Settings.HostSetting)
  | unconfigure
  | reconfigure
  | configure (schema overrides : Value)
  | runtime
  | makeReader (handle : String) (schema : Value)
  | clearMemory (reader : Option String)
  | read (key : String) (fallback schema : Value) (reader : Option String)
  | makeSchema (handle : String) (declarations : List Declaration)
  | bind (schema : String) (handles : List String)
  | types (schema : String)
  | callType (schema type : String) (operation : Definition.Operation)
  | startUp (validateOnly : Bool) (debug : Option Value)

/-- Registered scalars with the names that the session has for their definitions. -/
abbrev Listing := Table (Option String)

structure TypeListing where
  name : String
  description : Value
  serialize : Option String
  parseValue : Option String
  parseLiteral : Option String

inductive Answer where
  | nothing
  | definition (definition : Definition)
  | engineType (type : Definition.EngineType) (handle : Option String)
  | call (answer : Definition.Answer)
  | scalars (listing : Listing)
  | found (handle : Option String)
  | removed (handle : Option String) (listing : Listing)
  | value (value : Value)
  | runtime (settings : ValueTable Settings.Sections)
  | types (listing : List TypeListing)
  | bound (listing : List TypeListing)

abbrev Act (α : Type) := ExceptT Fault (StateM Session) α

end Session

end CustomScalars
