import Sluice.Text.LetterCase

/-!
# Paths

A path is a text whose components stand between slashes.  Empty components and single dots do not
count, except that a relative path may begin with a dot.
-/

set_option autoImplicit false

namespace Sluice

namespace Path

inductive Component where
  | root
  | here
  | parent
  | normal (name : List Char)
  deriving DecidableEq, Repr

def pieces : List Char → List (List Char)
  | [] => [[]]
  | c :: rest =>
    if c = '/' then [] :: pieces rest
    else
      match pieces rest with
      | [] => [[c]]
      | piece :: more => (c :: piece) :: more

def isAbsolute (path : List Char) : Bool := path.head? = some '/'

def ofPiece (piece : List Char) : Option Component :=
  if piece = [] ∨ piece = ['.'] then none
  else if piece = ['.', '.'] then some .parent
  else some (.normal piece)

def components (path : List Char) : List Component :=
  let front := if isAbsolute path then [.root]
    else if (pieces path).head? = some ['.'] then [.here] else []
  front ++ (pieces path).filterMap ofPiece

def componentChars : Component → List Char
  | .root => []
  | .here => ['.']
  | .parent => ['.', '.']
  | .normal name => name

/-- The name of what a path leads to, unless it ends in a parent or is the root. -/
def fileName? (path : List Char) : Option (List Char) :=
  match (components path).getLast? with
  | some (.normal name) => some name
  | _ => none

/-- What follows the last dot of a name; nothing if the name has no dot past its beginning. -/
def extensionOf (name : List Char) : List Char :=
  let after := (name.reverse.takeWhile (· ≠ '.')).reverse
  if after.length + 1 < name.length then after else []

/-- The extension of a path's last name, in lower case. -/
def extension (path : String) : String :=
  match fileName? path.toList with
  | some name => lowerText (String.ofList (extensionOf name))
  | none => ""

def join (folder path : List Char) : List Char :=
  if isAbsolute path || folder.isEmpty then path
  else if folder.getLast? = some '/' then folder ++ path
  else folder ++ '/' :: path

end Path

end Sluice
