import Sluice.Text.Utf8

/-!
# Places in a document

A cursor is what is left of a document and where that begins.  A document consists of printable
characters; a carriage return, a line feed, both together, and three other characters break lines.
-/

set_option autoImplicit false

namespace Sluice

namespace Yaml

def isAllowed (c : Char) : Bool :=
  let n := c.toNat
  n = 0x09 || n = 0x0A || n = 0x0D || (0x20 ≤ n && n ≤ 0x7E) || n = 0x85 || (0xA0 ≤ n && n ≤ 0xFFFD)
    || 0x10000 ≤ n

def isSpaceOrTab (c : Char) : Bool := c = ' ' || c = '\t'

def isBreak (c : Char) : Bool :=
  c = '\r' || c = '\n' || c = '\x85' || c = '\u2028' || c = '\u2029'

/-- The letters of names: anchors, tag handles and directives. -/
def isNameChar (c : Char) : Bool :=
  ('0' ≤ c && c ≤ '9') || ('A' ≤ c && c ≤ 'Z') || ('a' ≤ c && c ≤ 'z') || c = '_' || c = '-'

def byteOrderMark : Char := '\uFEFF'

structure Cursor where
  rest : List Char
  index : Nat
  line : Nat
  column : Nat
  deriving DecidableEq, Repr

namespace Cursor

def start (text : List Char) : Cursor := ⟨text, 0, 0, 0⟩

def peek? (cursor : Cursor) : Option Char := cursor.rest.head?

def ahead? (cursor : Cursor) (n : Nat) : Option Char := cursor.rest[n]?

def isAt (cursor : Cursor) (c : Char) : Bool := cursor.peek? = some c

def atEnd (cursor : Cursor) : Bool := cursor.rest.isEmpty

def holds (found : Option Char) (test : Char → Bool) : Bool :=
  match found with
  | some c => test c
  | none => false

/-- The end counts as a break. -/
def isBreakOrEnd (found : Option Char) : Bool :=
  match found with
  | some c => isBreak c
  | none => true

def isBlankOrEnd (found : Option Char) : Bool :=
  match found with
  | some c => isSpaceOrTab c || isBreak c
  | none => true

/-- Passes one character that breaks no line. -/
def skip (cursor : Cursor) : Cursor :=
  { cursor with
    rest := cursor.rest.drop 1, index := cursor.index + 1, column := cursor.column + 1 }

def skipMany (cursor : Cursor) (n : Nat) : Cursor :=
  { cursor with
    rest := cursor.rest.drop n, index := cursor.index + n, column := cursor.column + n }

/-- Passes the characters at the front that have a property and break no line. -/
def skipWhile (cursor : Cursor) (test : Char → Bool) : Cursor :=
  cursor.skipMany (cursor.rest.takeWhile test).length

/-- Passes a line break and tells what it stands for; at any other place it stays. -/
def readBreak (cursor : Cursor) : List Char × Cursor :=
  let after (n : Nat) (rest : List Char) : Cursor := ⟨rest, cursor.index + n, cursor.line + 1, 0⟩
  match cursor.rest with
  | '\r' :: '\n' :: rest => (['\n'], after 2 rest)
  | c :: rest =>
    if c = '\u2028' || c = '\u2029' then ([c], after 1 rest)
    else if isBreak c then (['\n'], after 1 rest)
    else ([], cursor)
  | [] => ([], cursor)

def skipComment (cursor : Cursor) : Cursor :=
  let cursor := cursor.skipWhile isSpaceOrTab
  if cursor.isAt '#' then cursor.skipWhile fun c => !isBreak c else cursor

/-- A line that consists of three dashes or three dots and then a blank. -/
def atDocumentMark (cursor : Cursor) : Bool :=
  cursor.column = 0 &&
    (cursor.rest.take 3 = ['-', '-', '-'] || cursor.rest.take 3 = ['.', '.', '.']) &&
    isBlankOrEnd (cursor.ahead? 3)

end Cursor

end Yaml

end Sluice
