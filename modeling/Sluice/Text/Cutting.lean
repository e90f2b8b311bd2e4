import Sluice.Text.Blank
import Sluice.Text.LetterCase
import Sluice.Text.Word

/-!
# Searching and cutting texts

Positions count characters.  A position before the text stands for its beginning and one past it
for its end.
-/

set_option autoImplicit false

namespace Sluice

namespace TextCut

/-- The position in a text of some length that is nearest to an index. -/
def clampIndex (index : Int) (length : Nat) : Nat := min index.toNat length

def slice (text : List Char) (start stop : Nat) : List Char := (text.drop start).take (stop - start)

/-- The characters between two positions, whichever comes first. -/
def between (text : List Char) (start stop : Int) : List Char :=
  let a := clampIndex start text.length
  let b := clampIndex stop text.length
  slice text (min a b) (max a b)

def onward (text : List Char) (start : Int) : List Char :=
  slice text (clampIndex start text.length) text.length

/-- The character at a position; none past the end. -/
def charAt (text : List Char) (index : Int) : List Char :=
  let position := clampIndex index text.length
  slice text position (position + 1)

def find? (text sought : List Char) : Option Nat :=
  if sought.isPrefixOf text then some 0
  else
    match text with
    | [] => none
    | _ :: rest => (find? rest sought).map (· + 1)

/-- The text without the occurrences of another, found from the left. -/
def remove (text sought : List Char) : List Char :=
  if sought.isEmpty then text else go (text.length + 1) text
where
  go : Nat → List Char → List Char
    | 0, text => text
    | _ + 1, [] => []
    | fuel + 1, c :: rest =>
      if sought.isPrefixOf (c :: rest) then go fuel ((c :: rest).drop sought.length)
      else c :: go fuel rest

def pieces (text : List Char) : List (List Char) :=
  (text.splitBy fun a b => isBlank a == isBlank b).filter fun piece => !piece.all isBlank

/-- The texts between the occurrences of a text that is not empty. -/
def textsBetween (text sought : List Char) : List (List Char) :=
  go (text.length + 1) text
where
  go : Nat → List Char → List (List Char)
    | 0, text => [text]
    | fuel + 1, text =>
      match find? text sought with
      | none => [text]
      | some position => text.take position :: go fuel (text.drop (position + sought.length))

/-- The parts of a text that another text separates; an empty one separates all characters. -/
def split (text separator : List Char) : List (List Char) :=
  if separator.isEmpty then [[]] ++ text.map ([·]) ++ [[]] else textsBetween text separator

/-- So many characters from a position on; a negative position counts from the end, and one before
the text stands for its beginning. -/
def subText (text : List Char) (start count : Int) : List Char :=
  let start := if start < 0 then start + text.length else start
  (text.drop start.toNat).take count.toNat

mutual

/-- A text with every word begun in upper case and continued in lower case. -/
def titleCase : List Char → List Char
  | [] => []
  | c :: rest =>
    if isWordChar c then upperChars c ++ titleTail rest else c :: titleCase rest

/-- The rest of a word, up to the next blank. -/
def titleTail : List Char → List Char
  | [] => []
  | c :: rest => if isBlank c then c :: titleCase rest else lowerChars c ++ titleTail rest

end

end TextCut

def titleText (text : String) : String := String.ofList (TextCut.titleCase text.toList)

end Sluice
