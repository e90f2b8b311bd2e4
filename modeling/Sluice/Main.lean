import Sluice.CommandLine.Execution

/-!
# The program

Reads what lies below the working folder and what the command names elsewhere, executes the command,
and writes what has changed.
-/

set_option autoImplicit false

namespace Sluice

def absolutePath (place : Place) : String := "/" ++ Disk.pathOf place

/-- Adds what is in a folder to a disk. -/
partial def readFolder (place : Place) (entries : Array IO.FS.DirEntry) (disk : Disk) :
    IO Disk := do
  let mut disk := disk
  for entry in entries do
    let inner := place ++ [entry.fileName]
    if ← entry.path.isDir then
      disk ← readFolder inner (← entry.path.readDir) (disk.put inner .folder)
    else
      let bytes ← IO.FS.readBinFile entry.path
      disk := disk.put inner (.file bytes.toList)
  return disk

/-- Adds what is on the way along a path to a disk, and what is in the folder at its end. -/
def readPath (path : String) (disk : Disk) : IO Disk := do
  let mut disk := disk
  let mut place := disk.start path.toList
  for name in Disk.walkNames path.toList do
    place := (Disk.stepTo place name).toOption.getD place
    let here := (← IO.currentDir) / absolutePath place
    if ← here.isDir then
      disk := disk.put place .folder
    else if ← here.pathExists then
      disk := disk.put place (.file (← IO.FS.readBinFile here).toList)
  let here := (← IO.currentDir) / absolutePath place
  if ← here.isDir then readFolder place (← here.readDir) disk else return disk

/-- Adds what the arguments of a run and the settings in its run file name. -/
def readRun (arguments : CommandLine.RunArguments) (disk : Disk) : IO Disk := do
  let mut disk ← readPath arguments.settings disk
  let saved := do
    let run ← (CommandLine.loadRunFile disk arguments.settings).toOption
    (run.settings.requiredText "destinationFolder").toOption
  let paths := arguments.output :: arguments.files ++ arguments.records.toList ++ saved.toList
  for path in paths do
    disk ← readPath path disk
  return disk

/-- Writes the nodes of a disk that another does not have. -/
def writeChanges (old new : Disk) : IO Unit := do
  for (place, node) in Disk.sorted new.nodes do
    if old.node? place ≠ some node then
      match node with
      | .folder => IO.FS.createDirAll (absolutePath place)
      | .file bytes => IO.FS.writeBinFile (absolutePath place) ⟨bytes.toArray⟩

end Sluice

open Sluice in
def main (arguments : List String) : IO UInt32 := do
  let folder ← IO.currentDir
  let working := Disk.walkNames folder.toString.toList
  let mut disk ← readFolder working (← folder.readDir) ⟨working, []⟩
  if let some (.run run) := CommandLine.readCommand arguments then
    disk ← readRun run disk
  let effect := CommandLine.execute arguments disk
  writeChanges disk effect.disk
  IO.print effect.stdout
  IO.eprint effect.stderr
  return UInt32.ofNat effect.code
