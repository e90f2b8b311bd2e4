import Sluice.Json
import Sluice.Text.Shown
import Sluice.Value

/-!
# Data of expressions

The values that expressions compute with, their texts and their truth.  A field value becomes a
datum; a moment becomes its text.  A datum becomes a field value; lists, maps and ranges become
their texts.
-/

set_option autoImplicit false

namespace Sluice

namespace Script

inductive Datum where
  | unit
  | bool (truth : Bool)
  | int (number : Int64)
  | float (number : Binary64)
  | text (text : String)
  | char (char : Char)
  | list (items : List Datum)
  /-- Entries sorted by key. -/
  | map (entries : List (String × Datum))
  /-- Integers from the first to the last one; the last one counts if the range is closed. -/
  | range (first last : Int64) (closed : Bool)
  deriving Inhabited

namespace Datum

def kind : Datum → String
  | unit => "()"
  | bool _ => "bool"
  | int _ => "i64"
  | float _ => "f64"
  | text _ => "string"
  | char _ => "char"
  | list _ => "array"
  | map _ => "map"
  | range _ _ closed => if closed then "range=" else "range"

def rangeText (first last : Int64) (closed : Bool) : String :=
  Value.intText first ++ (if closed then "..=" else "..") ++ Value.intText last

def quotedChar (c : Char) : String :=
  if c = '\'' then "'\\''"
  else if c = '"' then "'\"'"
  else "'" ++ String.ofList (showChar c) ++ "'"

mutual

def quoted : Datum → String
  | unit => "()"
  | bool b => Value.boolText b
  | int n => Value.intText n
  | float x => NumberLayout.quoted.write x
  | text s => showText s
  | char c => quotedChar c
  | list items => "[" ++ quotedItems items ++ "]"
  | map entries => "#\x7b" ++ quotedEntries entries ++ "\x7d"
  | range first last closed => rangeText first last closed

def quotedItems : List Datum → String
  | [] => ""
  | item :: rest => item.quoted ++ (match rest with
    | [] => ""
    | _ => ", " ++ quotedItems rest)

def quotedEntries : List (String × Datum) → String
  | [] => ""
  | (key, value) :: rest => showText key ++ ": " ++ value.quoted ++ (match rest with
    | [] => ""
    | _ => ", " ++ quotedEntries rest)

end

/-- The text of a datum by itself; nothing at all for the unit. -/
def spoken : Datum → String
  | unit => ""
  | float x => NumberLayout.spoken.write x
  | text s => s
  | char c => String.singleton c
  | datum => datum.quoted

/-- The truth of a datum: false for the unit, false, zero, a not-a-number and the empty text. -/
def truth : Datum → Bool
  | unit => false
  | bool b => b
  | int n => n != 0
  | float x => !x.isZero && !x.isNaN
  | text s => !s.isEmpty
  | _ => true

def ofValue : Value → Datum
  | .text s => text s
  | .int n => int n
  | .float x => float x
  | .bool b => bool b
  | .moment m => text m.text
  | .null => unit

def toValue : Datum → Value
  | unit => .null
  | bool b => .bool b
  | int n => .int n
  | float x => .float x
  | text s => .text s
  | char c => .text (String.singleton c)
  | datum => .text datum.spoken

mutual

/-- Two data are of one kind and the same; a zero is not its negative. -/
def identical : Datum → Datum → Bool
  | unit, unit => true
  | bool a, bool b => a == b
  | int a, int b => a == b
  | float a, float b => a.bits == b.bits
  | text a, text b => a == b
  | char a, char b => a == b
  | list a, list b => identicalItems a b
  | map a, map b => identicalEntries a b
  | _, _ => false

def identicalItems : List Datum → List Datum → Bool
  | [], [] => true
  | a :: as, b :: bs => a.identical b && identicalItems as bs
  | _, _ => false

def identicalEntries : List (String × Datum) → List (String × Datum) → Bool
  | [], [] => true
  | (j, a) :: as, (k, b) :: bs => j == k && a.identical b && identicalEntries as bs
  | _, _ => false

end

/-- A map of the given entries; of equal keys the last one counts. -/
def ofEntries (entries : List (String × Datum)) : Datum :=
  map (entries.foldl (fun sorted entry => setSorted entry.1 entry.2 sorted) [])

end Datum

end Script

end Sluice
