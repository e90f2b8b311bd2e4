import Sluice.Settings.Reading

/-!
# Run files

A run file is a document that names a function and, perhaps, its settings.  Other members are not
looked at.
-/

set_option autoImplicit false

namespace Sluice

structure RunFile where
  function : String
  settings : Settings

namespace RunFile

open Yaml

/-- The function and the settings, as far as they were met. -/
structure Found where
  function : Option String
  settings : Option Settings

/-- Settings as a member: a mapping, or nothing at all. -/
def readSettings (document : Document) (node : Node) : Convert Settings := do
  match ← document.follow node with
  | .mapping _ members => document.toMembers (depthMax - 1) members
  | .scalar _ "" true => return []
  | _ => failure

/-- Reads the members in order; neither of the two may come twice. -/
def readMembers (document : Document) : List (Node × Node) → Found → Convert Found
  | [], found => return found
  | (key, value) :: rest, found => do
    let name ← document.keyText key
    if name = "function" then
      if found.function.isSome then failure
      else
        let function ← document.keyText value
        readMembers document rest { found with function := some function }
    else if name = "config" then
      if found.settings.isSome then failure
      else
        let settings ← readSettings document value
        readMembers document rest { found with settings := some settings }
    else readMembers document rest found

def ofDocument? (document : Document) : Option RunFile := do
  match document.root with
  | some (.mapping _ members) =>
    let found ← (readMembers document members ⟨none, none⟩).run' document.followMax
    some ⟨← found.function, found.settings.getD []⟩
  | _ => none

def read? (text : String) : Option RunFile := do
  ofDocument? (← Document.ofText? text.toList)

end RunFile

end Sluice
