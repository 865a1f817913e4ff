import CustomScalars.Settings.Layers

/-!
# Folders of run-time settings

What is configured for a schema at run time is kept in a folder of sections. A folder may be part of
what is in use and of what was laid aside at the same time, and it is written to where it lies. So
folders are numbered, and a folder is changed wherever its number is.
-/
namespace CustomScalars.Settings

structure Folder where
  serial : Nat
  sections : Sections

/-- The folders of schemas. -/
abbrev Runtime := ValueTable Folder

namespace Folder

def add (folder : Folder) (sections : Sections) : Folder :=
  { folder with sections := folder.sections.putAll sections }

end Folder

namespace Runtime

/-- What the folders hold, without their numbers. -/
def contents (runtime : Runtime) : ValueTable Sections :=
  runtime.map fun entry => (entry.1, entry.2.sections)

def fill (serial : Nat) (sections : Sections) (runtime : Runtime) : Runtime :=
  runtime.map fun entry =>
    (entry.1, if entry.2.serial = serial then entry.2.add sections else entry.2)

end Runtime

end CustomScalars.Settings
