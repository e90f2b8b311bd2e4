import Sluice.Flow.Stage

/-!
# Files to a folder

A file is written below a folder under its own name.  A name that would lead elsewhere is refused:
an empty or absolute one, and one with a component that leads back.
-/

set_option autoImplicit false

namespace Sluice

namespace Path

/-- The components of a name that stays where it is put. -/
def staysBelow : Component → Bool
  | .normal _ => true
  | .here => true
  | _ => false

def refusal (name : String) : Failure :=
  .unsupported ("refusing to write '" ++ name ++ "' outside the destination folder")

def destination (folder name : String) : Outcome String :=
  if !name.isEmpty && (components name.toList).all staysBelow then
    .ok (String.ofList (join folder.toList name.toList))
  else .error (refusal name)

end Path

namespace Run

def onDisk {α : Type} (change : Disk → Except StreamFault (α × Disk)) : Run α := do
  match change (← current).disk with
  | .error fault => fail (.stream fault)
  | .ok (value, disk) =>
    modify fun session => { session with disk := disk }
    pure value

/-- Writes a file below a folder.  What its reader delivers is written also when it then fails. -/
def saveFile (folder : String) (file : SourceFile) : Run Nat := do
  let path ← ofOutcome (Path.destination folder file.name)
  let place ← onDisk fun disk => disk.create path
  let delivery ← deliver file
  modify fun session => { session with disk := session.disk.fill place delivery.bytes }
  match delivery.fault with
  | some fault => fail (.stream fault)
  | none => pure delivery.bytes.length

def handleSaving (folder : String) (entry : Entry) : Run Unit := do
  let file ← ofOutcome entry.asFile
  let _ ← saveFile folder file

end Run

def Path.settle (settings : Settings) : Outcome Stage := do
  let folder ← settings.requiredText "destinationFolder"
  let policy ← settings.entryPolicy
  .ok (.handling policy (Run.handleSaving folder))

end Sluice
