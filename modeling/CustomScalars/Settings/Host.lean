import CustomScalars.Value.Basic

/-!
# Host settings

The library is configured through settings of its host. They are kept in levels: overrides, each
lying on what was there when it was made, and at the bottom the host's own settings. An override
says of a setting that it is as below, that it has another value, or that it is not there; the
host's own settings have nothing below them. Without any level the host is not configured.

Levels are numbered, because a level may be part of what is in use and of what was laid aside at
the same time; a change to it is a change in both places.
-/
namespace CustomScalars.Settings

/-- The settings that a host supplies for the library, the one of its own that matters here, and
all others, which do not. -/
inductive HostSetting where
  | shared
  | bySchema
  | debug
  | other (name : String)
  deriving DecidableEq

namespace HostSetting

def sharedName : String := "RAIL_SCALARS"

def bySchemaName : String := "RAIL_SCALARS_SCHEMAS"

def debugName : String := "DEBUG"

def ofName (name : String) : HostSetting :=
  if name = sharedName then .shared
  else if name = bySchemaName then .bySchema
  else if name = debugName then .debug
  else .other name

def name : HostSetting → String
  | .shared => sharedName
  | .bySchema => bySchemaName
  | .debug => debugName
  | .other name => name

/-- Whether scalars are configured by it. -/
def isOwn : HostSetting → Bool
  | .shared | .bySchema => true
  | .debug | .other _ => false

end HostSetting

/-- What the settings are, all levels taken together. -/
structure Host where
  shared : Option Value
  bySchema : Option Value
  debug : Option Value

namespace Host

def empty : Host := ⟨none, none, none⟩

end Host

/-- What one level says of a setting. -/
inductive Change where
  | inherited
  | removed
  | given (value : Value)

namespace Change

def onto : Change → Option Value → Option Value
  | .inherited, below => below
  | .removed, _ => none
  | .given value, _ => some value

/-- What is not given is as below. -/
def ofOption : Option Value → Change
  | some value => .given value
  | none => .inherited

def isGiven : Change → Bool
  | .given _ => true
  | _ => false

end Change

structure HostLevel where
  serial : Nat
  /-- Whether these are the host's own settings and not an override. -/
  isRoot : Bool
  shared : Change
  bySchema : Change
  debug : Change
  /-- The names of the other settings that are given here. -/
  others : List String

namespace HostLevel

/-- The settings of a host that configures nothing and is in debug mode. -/
def standard (serial : Nat) : HostLevel where
  serial := serial
  isRoot := true
  shared := .given (.ofEntries [])
  bySchema := .given (.ofEntries [])
  debug := .given (.bool true)
  others := []

def override (serial : Nat) (shared bySchema debug : Option Value) : HostLevel where
  serial := serial
  isRoot := false
  shared := .ofOption shared
  bySchema := .ofOption bySchema
  debug := .ofOption debug
  others := []

def gives (level : HostLevel) : HostSetting → Bool
  | .shared => level.shared.isGiven
  | .bySchema => level.bySchema.isGiven
  | .debug => level.debug.isGiven
  | .other name => level.others.contains name

def put (level : HostLevel) (setting : HostSetting) (change : Change) : HostLevel :=
  match setting with
  | .shared => { level with shared := change }
  | .bySchema => { level with bySchema := change }
  | .debug => { level with debug := change }
  | .other name =>
    let without := level.others.filter (· ≠ name)
    { level with others := if change.isGiven then name :: without else without }

/-- The host's own settings cannot lose what they do not have. -/
def canRemove (level : HostLevel) (setting : HostSetting) : Bool :=
  !level.isRoot || level.gives setting

def onto (level : HostLevel) (below : Host) : Host where
  shared := level.shared.onto below.shared
  bySchema := level.bySchema.onto below.bySchema
  debug := level.debug.onto below.debug

end HostLevel

/-- What levels amount to, the first one being the top. -/
def Host.ofLevels : List HostLevel → Option Host
  | [] => none
  | level :: below => some (level.onto ((Host.ofLevels below).getD .empty))

/-- The number of the level that the setting for single schemas comes from. -/
def schemasFrom : List HostLevel → Option Nat
  | [] => none
  | level :: below =>
    match level.bySchema with
    | .inherited => schemasFrom below
    | _ => some level.serial

/-- Change the level of a number wherever it is. -/
def amend (serial : Nat) (change : HostLevel → HostLevel) (levels : List HostLevel) :
    List HostLevel :=
  levels.map fun level => if level.serial = serial then change level else level

end CustomScalars.Settings
