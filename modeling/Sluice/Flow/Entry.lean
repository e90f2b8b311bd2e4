import Sluice.Disk.Store
import Sluice.Record

/-!
# Entries

What flows through a port: records and whole files.  The contents of a file are read when they are
needed, from memory or from the disk.
-/

set_option autoImplicit false

namespace Sluice

/-- What a reader delivers: some bytes and then, unless they are all there is, a fault. -/
structure Delivery where
  bytes : Bytes
  fault : Option StreamFault
  deriving DecidableEq, Repr

inductive Contents where
  | held (delivery : Delivery)
  | stored (place : Place)
  deriving DecidableEq, Repr

structure SourceFile where
  name : String
  contents : Contents
  deriving DecidableEq, Repr

namespace SourceFile

def ofBytes (name : String) (bytes : Bytes) : SourceFile := ⟨name, .held ⟨bytes, none⟩⟩

/-- The file at a path, named after the path's last name. -/
def atPath (disk : Disk) (path : String) : Except StreamFault SourceFile :=
  match Path.fileName? path.toList with
  | none => .error (.noFileName path)
  | some name => do
    let (place, _) ← disk.find path
    .ok ⟨String.ofList name, .stored place⟩

def deliver (disk : Disk) (file : SourceFile) : Delivery :=
  match file.contents with
  | .held delivery => delivery
  | .stored place =>
    match disk.bytesAt place with
    | .ok bytes => ⟨bytes, none⟩
    | .error fault => ⟨[], some fault⟩

end SourceFile

inductive Entry where
  | record (record : Record)
  | file (file : SourceFile)

namespace Entry

def kind : Entry → String
  | record _ => "record"
  | file _ => "file"

def asRecord : Entry → Outcome Record
  | record r => .ok r
  | file f => .error (.typeMismatch "record" ("file '" ++ f.name ++ "'"))

def asFile : Entry → Outcome SourceFile
  | file f => .ok f
  | record _ => .error (.typeMismatch "file" "record")

end Entry

end Sluice
