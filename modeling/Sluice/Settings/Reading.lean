import Sluice.Disk.Store
import Sluice.Settings
import Sluice.Yaml.Resolution

/-!
# Settings files

Settings are read from a document whose root is a mapping.
-/

set_option autoImplicit false

namespace Sluice

namespace Settings

def readNamed (name text : String) : Outcome Settings :=
  match Yaml.read? text with
  | none => .error (.settings name "failed to parse YAML")
  | some (.object members) => .ok members
  | some other =>
    .error (.settings name ("expected a mapping at the top level, got " ++ other.kind))

def read (text : String) : Outcome Settings := readNamed "<document>" text

def load (disk : Disk) (path : String) : Outcome Settings :=
  match disk.readText path with
  | .error fault => .error (.settings path ("failed to read file: " ++ fault.message))
  | .ok text => readNamed path text

end Settings

end Sluice
