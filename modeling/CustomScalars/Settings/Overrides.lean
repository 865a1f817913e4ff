import CustomScalars.Settings.Reader
import CustomScalars.Settings.Runtime

/-!
# Changing settings

The settings of a running library are what was configured at run time, the levels of the host's
settings, and the reader that everyone shares. Every change that goes through the library clears
the reader's memory; the host may also change its settings behind the library's back and say so
afterwards, or not at all.

An override opens a new level: it lays aside what was configured and the levels so far, starts with
no run-time settings and with the host's settings apart from those it is given, and when it is
closed everything is as it was. What it lays aside are the folders and levels themselves and no
copies of them: a change to one of them is a change there too.

A host setting may be one that can be gone through once. Whether that was done is known of the level
that it comes from, as long as the level has that setting.

The host can be taken away and brought back. While it is away, asking it for a setting or changing
one sets up a new host, which configures nothing.
-/
namespace CustomScalars

/-- What an open override has laid aside. -/
structure Outer where
  runtime : Settings.Runtime
  levels : List Settings.HostLevel
  /-- Whether the override was given any setting, which the host is asked for when it closes. -/
  asks : Bool

structure Settings where
  runtime : Settings.Runtime
  /-- The levels of the host's settings, the top one first. -/
  levels : List Settings.HostLevel
  reader : Settings.Reader
  /-- What the open overrides have laid aside, innermost first. -/
  outer : List Outer
  /-- The levels of a host that is taken away. -/
  parked : Option (List Settings.HostLevel)
  /-- The numbers of the levels whose setting for single schemas was to be gone through once, and
  has been. -/
  spent : List Nat
  /-- The number of the next level or folder. -/
  nextSerial : Nat

namespace Settings

/-- A configured host that sets nothing, and is in debug mode. -/
def initial : Settings where
  runtime := []
  levels := [.standard 0]
  reader := .fresh .null
  outer := []
  parked := none
  spent := []
  nextSerial := 1

def layers (settings : Settings) : Layers :=
  ⟨settings.runtime.contents, Host.ofLevels settings.levels⟩

def clear (settings : Settings) : Settings := { settings with reader := settings.reader.clear }

def read (settings : Settings) (key : String) (fallback schema : Value) :
    Except Fault Value × Settings :=
  let (answer, reader) := settings.reader.read settings.layers key fallback schema
  (answer, { settings with reader := reader })

/-- The number of a schema's folder. A schema without one gets an empty folder. -/
def ensureFolder (settings : Settings) (schema : Value) : Except Fault (Nat × Settings) := do
  match ← settings.runtime.find schema with
  | some folder => return (folder.serial, settings)
  | none =>
    return (settings.nextSerial,
      { settings with
        runtime := settings.runtime.put schema ⟨settings.nextSerial, []⟩
        nextSerial := settings.nextSerial + 1 })

/-- Write sections into the folder of a number, also where it is laid aside. -/
def fill (settings : Settings) (serial : Nat) (sections : Sections) : Settings :=
  { settings with
    runtime := settings.runtime.fill serial sections
    outer := settings.outer.map fun outer =>
      { outer with runtime := outer.runtime.fill serial sections } }

/-- Add sections to the run-time settings of a schema, or replace them. Any value that can be
looked up may stand for a schema. -/
def configure (settings : Settings) (schema : Value) (sections : Sections) :
    Except Fault Settings := do
  let (serial, opened) ← settings.ensureFolder schema
  return clear (opened.fill serial sections)

/-- A host that is not there is set up anew. -/
def ensureHost (settings : Settings) : Settings :=
  match settings.levels with
  | [] =>
    { settings with
      levels := [.standard settings.nextSerial]
      nextSerial := settings.nextSerial + 1 }
  | _ :: _ => settings

/-- Lay a level of its own on the others. -/
def addLevel (settings : Settings) (shared bySchema debug : Option Value) : Settings :=
  { settings with
    levels := .override settings.nextSerial shared bySchema debug :: settings.levels
    nextSerial := settings.nextSerial + 1 }

def enter (settings : Settings) (shared bySchema : Option Value) : Settings :=
  let outer : Outer :=
    ⟨settings.runtime, settings.levels, shared.isSome || bySchema.isSome⟩
  clear
    { settings.addLevel shared bySchema none with
      runtime := []
      outer := outer :: settings.outer }

/-- Without an open override there is nothing to leave. -/
def leave (settings : Settings) : Settings :=
  match settings.outer with
  | [] => settings
  | first :: rest =>
    let restored :=
      clear { settings with runtime := first.runtime, levels := first.levels, outer := rest }
    if first.asks then restored.ensureHost else restored

/-- Change the top level, also where it is laid aside or parked. -/
def amendTop (settings : Settings) (change : HostLevel → HostLevel) : Settings :=
  match settings.levels with
  | [] => settings
  | top :: _ =>
    { settings with
      levels := amend top.serial change settings.levels
      outer := settings.outer.map fun outer =>
        { outer with levels := amend top.serial change outer.levels }
      parked := settings.parked.map (amend top.serial change) }

/-- A setting that was set anew has not been gone through. -/
def renew (settings : Settings) (setting : HostSetting) : Settings :=
  match setting, settings.levels with
  | .bySchema, top :: _ => { settings with spent := settings.spent.filter (· ≠ top.serial) }
  | _, _ => settings

theorem renew_eq (settings : Settings) (setting : HostSetting) :
    settings.renew setting = { settings with spent := (settings.renew setting).spent } := by
  unfold renew
  split <;> rfl

/-- Set a host setting without telling the library. -/
def assign (settings : Settings) (setting : HostSetting) (value : Value) : Settings :=
  (settings.ensureHost.amendTop fun level => level.put setting (.given value)).renew setting

/-- Take a host setting away without telling the library. The host is set up even where there is
nothing to take away. -/
def remove (settings : Settings) (setting : HostSetting) : Except Fault Unit × Settings :=
  let present := settings.ensureHost
  if present.levels.head?.any fun level => !level.canRemove setting then
    (.error (.absentSetting setting.name), present)
  else (.ok (), present.amendTop fun level => level.put setting .removed)

/-- The host tells that a setting has changed. -/
def announce (settings : Settings) (setting : Option HostSetting) : Settings :=
  match setting with
  | some changed => if changed.isOwn then settings.clear else settings
  | none => settings

/-- What the host says for single schemas. -/
def schemas (settings : Settings) : Option Value := settings.layers.host.bind Host.bySchema

def isSpent (settings : Settings) : Bool :=
  (schemasFrom settings.levels).any settings.spent.contains

/-- Whether what the host says for single schemas will be gone after it was gone through. -/
def passes (settings : Settings) : Bool :=
  settings.schemas.any Value.isPassing && !settings.isSpent

/-- Go through what the host says for single schemas. Only what can be gone through once shows it
afterwards. -/
def useUp (settings : Settings) : Settings :=
  if settings.passes then
    { settings with spent := (schemasFrom settings.levels).toList ++ settings.spent }
  else settings

theorem useUp_eq (settings : Settings) :
    settings.useUp = { settings with spent := settings.useUp.spent } := by
  unfold useUp
  split <;> rfl

theorem layers_useUp (settings : Settings) : settings.useUp.layers = settings.layers := by
  rw [useUp_eq]
  rfl

theorem useUp_of_lasting {settings : Settings} (lasting : settings.passes = false) :
    settings.useUp = settings := if_neg (by simp [lasting])

def unconfigure (settings : Settings) : Settings :=
  match settings.levels with
  | [] => settings
  | levels => { settings with levels := [], parked := some levels }

def reconfigure (settings : Settings) : Settings :=
  match settings.parked with
  | none => settings
  | some levels => { settings with levels := levels, parked := none }

end Settings

end CustomScalars
