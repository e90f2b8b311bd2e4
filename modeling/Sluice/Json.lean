import Sluice.Number.Layout
import Sluice.Number.Reading
import Sluice.Time.Moment

/-!
# JSON documents

JSON values and their compact text.  A number written as an integer that fits 64 bits, signed or
unsigned, is an integer; every other number is a float.  The members of an object are sorted by
name and no name occurs twice.
-/

set_option autoImplicit false

namespace Sluice

inductive Json where
  | null
  | bool (truth : Bool)
  | int (number : Int)
  | float (number : Binary64)
  | text (text : String)
  | list (items : List Json)
  | object (members : List (String × Json))
  deriving Inhabited

abbrev Members := List (String × Json)

/-- Sets a name in a list that is sorted by name; an earlier value of the name is replaced. -/
def setSorted {α : Type} (name : String) (value : α) : List (String × α) → List (String × α)
  | [] => [(name, value)]
  | (key, old) :: rest =>
    if key = name then (name, value) :: rest
    else if name < key then (name, value) :: (key, old) :: rest
    else (key, old) :: setSorted name value rest

namespace Json

/-- An object of the given members; of equal names the last one counts. -/
def ofMembers (members : Members) : Json :=
  object (members.foldl (fun sorted pair => setSorted pair.1 pair.2 sorted) [])

def kind : Json → String
  | null => "null"
  | bool _ => "boolean"
  | int _ => "number"
  | float _ => "number"
  | text _ => "string"
  | list _ => "array"
  | object _ => "object"

/-! ## Writing -/

def hexDigitChar (n : Nat) : Char := Nat.digitChar (n % 16)

def escapeChar (c : Char) : List Char :=
  if c = '"' then ['\\', '"']
  else if c = '\\' then ['\\', '\\']
  else if 0x20 ≤ c.toNat then [c]
  else if c = '\n' then ['\\', 'n']
  else if c = '\r' then ['\\', 'r']
  else if c = '\t' then ['\\', 't']
  else if c.toNat = 0x8 then ['\\', 'b']
  else if c.toNat = 0xC then ['\\', 'f']
  else ['\\', 'u', '0', '0', hexDigitChar (c.toNat / 16), hexDigitChar c.toNat]

def quoteChars (text : List Char) : List Char := '"' :: text.flatMap escapeChar ++ ['"']

def quote (text : String) : List Char := quoteChars text.toList

/-- The text of a float; what is not finite has no number to stand for it. -/
def floatChars (x : Binary64) : List Char :=
  if x.isFinite then (NumberLayout.json.write x).toList else "null".toList

mutual

def chars : Json → List Char
  | null => "null".toList
  | bool b => (if b then "true" else "false").toList
  | int n => (toString n).toList
  | float x => floatChars x
  | text s => quote s
  | list items => '[' :: itemChars items ++ [']']
  | object members => '\x7b' :: memberChars members ++ ['\x7d']

def itemChars : List Json → List Char
  | [] => []
  | item :: rest => chars item ++ (match rest with
    | [] => []
    | _ => ',' :: itemChars rest)

def memberChars : List (String × Json) → List Char
  | [] => []
  | (name, value) :: rest => quote name ++ ':' :: chars value ++ (match rest with
    | [] => []
    | _ => ',' :: memberChars rest)

end

def write (json : Json) : String := String.ofList json.chars

end Json

end Sluice
