import Sluice.Disk.Path
import Sluice.Failure
import Sluice.Text.Utf8

/-!
# A disk

The files and folders below the root.  A place is the list of names that leads to it from there, and
the root itself is the empty list.  A path is walked name by name, from the root if it is absolute
and from the working folder if it is not, and each name but the last must be that of a folder.
-/

set_option autoImplicit false

namespace Sluice

/-- The names on the way from the root. -/
abbrev Place := List String

inductive DiskNode where
  | folder
  | file (bytes : Bytes)
  deriving DecidableEq, Repr

/-- Replaces the node of a place where it stands, or adds the place at the end. -/
def putNode (place : Place) (node : DiskNode) : List (Place × DiskNode) → List (Place × DiskNode)
  | [] => [(place, node)]
  | (key, old) :: rest =>
    if key = place then (key, node) :: rest else (key, old) :: putNode place node rest

theorem lookup_putNode (place other : Place) (node : DiskNode) (nodes : List (Place × DiskNode)) :
    (putNode place node nodes).lookup other =
      if other = place then some node else nodes.lookup other := by
  induction nodes with
  | nil =>
    by_cases same : other = place
    · simp [putNode, same]
    · simp [putNode, List.lookup_cons, beq_eq_false_iff_ne.2 same, same]
  | cons first rest ih =>
    obtain ⟨key, old⟩ := first
    by_cases hit : key = place
    · subst hit
      by_cases same : other = key
      · simp [putNode, same]
      · simp [putNode, List.lookup_cons, beq_eq_false_iff_ne.2 same, same]
    · by_cases same : other = key
      · subst same
        simp [putNode, hit]
      · simp [putNode, hit, List.lookup_cons, beq_eq_false_iff_ne.2 same, ih]

structure Disk where
  working : Place
  nodes : List (Place × DiskNode)
  deriving DecidableEq, Repr

namespace Disk

/-- A disk with nothing but an empty working folder. -/
def empty : Disk := ⟨["work"], []⟩

instance : Inhabited Disk := ⟨empty⟩

/-- The working folder is always there, and so are the folders on the way to it. -/
def node? (disk : Disk) (place : Place) : Option DiskNode :=
  if place <+: disk.working then some .folder else disk.nodes.lookup place

def put (disk : Disk) (place : Place) (node : DiskNode) : Disk :=
  { disk with nodes := putNode place node disk.nodes }

@[simp] theorem working_put (disk : Disk) (place : Place) (node : DiskNode) :
    (disk.put place node).working = disk.working := rfl

theorem node?_put {disk : Disk} {place : Place} (apart : disk.node? place ≠ some .folder)
    (node : DiskNode) (other : Place) :
    (disk.put place node).node? other = if other = place then some node else disk.node? other := by
  have beside : ¬ place <+: disk.working := fun leads => apart (if_pos leads)
  by_cases leads : other <+: disk.working
  · have differs : other ≠ place := by
      rintro rfl
      exact beside leads
    rw [node?, working_put, if_pos leads, if_neg differs, node?, if_pos leads]
  · rw [node?, working_put, if_neg leads, node?, if_neg leads, put, lookup_putNode]

/-! ## Walking a path -/

/-- The longest names and paths, in bytes. -/
def nameMax : Nat := 255
def pathMax : Nat := 4095

/-- The place one name further on: two dots lead back, and from the root to itself. -/
def stepTo (place : Place) (name : String) : Except StreamFault Place :=
  if name = ".." then .ok place.dropLast
  else if nameMax < Utf8.size name.toList then .error .nameTooLong
  else .ok (place ++ [name])

/-- A place must be a folder for the walk to go on from there. -/
def enter (disk : Disk) (place : Place) : Except StreamFault Unit :=
  match disk.node? place with
  | some .folder => .ok ()
  | some (.file _) => .error .notDirectory
  | none => .error .notFound

def walk (disk : Disk) : Place → List String → Except StreamFault Place
  | place, [] => .ok place
  | place, name :: rest => do
    disk.enter place
    disk.walk (← stepTo place name) rest

def walkNames (path : List Char) : List String :=
  ((Path.pieces path).filter fun piece => piece ≠ [] ∧ piece ≠ ['.']).map String.ofList

/-- How a path ends: a slash or a dot at its end asks for a folder, and a dot for one that is
there. -/
inductive PathEnd where
  | name
  | slash
  | dot
  deriving DecidableEq, Repr

def pathEnd (path : List Char) : PathEnd :=
  match (Path.pieces path).getLast? with
  | some piece => if piece = [] then .slash else if piece = ['.'] then .dot else .name
  | none => .name

/-- Where the walk along a path begins. -/
def start (disk : Disk) (path : List Char) : Place :=
  if Path.isAbsolute path then [] else disk.working

/-- The place that a path leads to, whether or not anything is there. -/
def locate (disk : Disk) (path : String) : Except StreamFault Place :=
  let chars := path.toList
  if chars.contains '\x00' then .error .invalidInput
  else if chars.isEmpty then .error .notFound
  else if pathMax < Utf8.size chars then .error .nameTooLong
  else disk.walk (disk.start chars) (walkNames chars)

def find (disk : Disk) (path : String) : Except StreamFault (Place × DiskNode) := do
  let place ← disk.locate path
  match disk.node? place with
  | none => .error .notFound
  | some .folder => .ok (place, .folder)
  | some (.file bytes) =>
    if pathEnd path.toList = .name then .ok (place, .file bytes) else .error .notDirectory

def isFolder (disk : Disk) (path : String) : Bool :=
  match disk.find path with
  | .ok (_, .folder) => true
  | _ => false

/-! ## Reading and writing -/

/-- The bytes at a place; a folder has none to read. -/
def bytesAt (disk : Disk) (place : Place) : Except StreamFault Bytes :=
  match disk.node? place with
  | some (.file bytes) => .ok bytes
  | some .folder => .error .isDirectory
  | none => .error .notFound

def read (disk : Disk) (path : String) : Except StreamFault Bytes := do
  let (place, _) ← disk.find path
  disk.bytesAt place

def readText (disk : Disk) (path : String) : Except StreamFault String := do
  match Utf8.decode? (← disk.read path) with
  | some text => .ok (String.ofList text)
  | none => .error .notUtf8

/-- Makes an empty file, also in place of another, and tells where it is. -/
def create (disk : Disk) (path : String) : Except StreamFault (Place × Disk) := do
  let place ← disk.locate path
  match pathEnd path.toList with
  | .slash => .error .isDirectory
  | .dot =>
    disk.enter place
    .error .isDirectory
  | .name =>
    match disk.node? place with
    | some .folder => .error .isDirectory
    | _ => .ok (place, disk.put place (.file []))

def fill (disk : Disk) (place : Place) (bytes : Bytes) : Disk := disk.put place (.file bytes)

def write (disk : Disk) (path : String) (bytes : Bytes) : Except StreamFault Disk := do
  let (place, disk) ← disk.create path
  .ok (disk.fill place bytes)

def makeFolder (disk : Disk) (path : String) : Except StreamFault Disk := do
  let place ← disk.locate path
  if pathEnd path.toList = .dot then disk.enter place
  match disk.node? place with
  | some _ => .error .alreadyExists
  | none => .ok (disk.put place .folder)

def parentPath (path : List Char) : List Char :=
  match (Path.components path).dropLast with
  | [.root] => ['/']
  | above => ((above.map Path.componentChars).intersperse ['/']).flatten

/-- Makes a folder and all that is missing on the way to it.  What was made stays, also where a
later folder cannot be made. -/
def makeFolders : Nat → Disk → List Char → Except StreamFault Unit × Disk
  | 0, disk, _ => (.ok (), disk)
  | fuel + 1, disk, path =>
    if path.isEmpty then (.ok (), disk)
    else
      let name := String.ofList path
      match disk.makeFolder name with
      | .ok disk => (.ok (), disk)
      | .error .notFound =>
        match makeFolders fuel disk (parentPath path) with
        | (.error fault, disk) => (.error fault, disk)
        | (.ok (), disk) =>
          match disk.makeFolder name with
          | .ok disk => (.ok (), disk)
          | .error fault => if disk.isFolder name then (.ok (), disk) else (.error fault, disk)
      | .error fault => if disk.isFolder name then (.ok (), disk) else (.error fault, disk)

def createFolders (disk : Disk) (path : String) : Except StreamFault Unit × Disk :=
  makeFolders (path.toList.length + 1) disk path.toList

/-! ## Listing -/

/-- Places in the order of a listing: a folder comes before what is in it, and the names in one
folder are sorted. -/
def placeLe : Place → Place → Bool
  | [], _ => true
  | _ :: _, [] => false
  | a :: as, b :: bs => if a = b then placeLe as bs else decide (a < b)

/-- What is below a folder, under the names that lead there from it. -/
def below (disk : Disk) (folder : Place) : List (Place × DiskNode) :=
  disk.nodes.filterMap fun (place, node) =>
    (folder.isPrefixOf? place).map fun names => (names, node)

def sorted (nodes : List (Place × DiskNode)) : List (Place × DiskNode) :=
  nodes.mergeSort fun a b => placeLe a.1 b.1

def listing (disk : Disk) : List (Place × DiskNode) := sorted (disk.below disk.working)

def pathOf (place : Place) : String := String.intercalate "/" place

end Disk

end Sluice
