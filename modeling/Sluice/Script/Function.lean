import Sluice.Script.NumberFunction

/-!
# Functions of expressions

The functions, methods, properties and indexes of data.  A method is a function whose first
argument is its target.

Besides the helpers for texts these are a part of the standard package of the expression language
only, and all of it is pure.  What prints or reads the clock, what changes a list or a map in its
place, what takes a function, and most of what works on lists, bytes and single characters is left
out: a call of it is refused as a call of an unknown function, where the full package would answer.
-/

set_option autoImplicit false

namespace Sluice

namespace Script

def textDatum (text : List Char) : Datum := .text (String.ofList text)

/-- The number that a text holds between blanks, or the unit. -/
def parseIntText (s : String) : Datum :=
  match readInt (trimText s) with
  | .ok n => .int n
  | .error _ => .unit

def parseFloatText (s : String) : Datum :=
  match readDecimal (trimText s) with
  | .ok x => .float x
  | .error _ => .unit

def indexOf (text sought : List Char) : Int64 :=
  match TextCut.find? text sought with
  | some position => Int64.ofNat position
  | none => -1

def textFunction? (name s : String) : Option Datum :=
  let text := s.toList
  if name = "toLowerCase" ∨ name = "to_lower" then some (.text (lowerText s))
  else if name = "toUpperCase" ∨ name = "to_upper" then some (.text (upperText s))
  else if name = "trim" then some (.text (trimText s))
  else if name = "toTitleCase" then some (.text (titleText s))
  else if name = "parseInt" then some (parseIntText s)
  else if name = "parseFloat" then some (parseFloatText s)
  else if name = "len" then some (natDatum text.length)
  else if name = "is_empty" then some (Datum.bool text.isEmpty)
  else if name = "bytes" then some (natDatum s.utf8ByteSize)
  else if name = "split" then some (.list ((TextCut.pieces text).map textDatum))
  else none

def textsFunction? (name s other : String) : Option Datum :=
  let text := s.toList
  let sought := other.toList
  if name = "startsWith" ∨ name = "starts_with" then some (Datum.bool (sought.isPrefixOf text))
  else if name = "endsWith" ∨ name = "ends_with" then some (Datum.bool (sought.isSuffixOf text))
  else if name = "includes" ∨ name = "contains" then
    some (Datum.bool (TextCut.find? text sought).isSome)
  else if name = "indexOf" ∨ name = "index_of" then some (.int (indexOf text sought))
  else if name = "split" then some (.list ((TextCut.split text sought).map textDatum))
  else none

def positionFunction? (name s : String) (position : Int64) : Option Datum :=
  if name = "substring" then some (textDatum (TextCut.onward s.toList position.toInt))
  else if name = "charAt" then some (textDatum (TextCut.charAt s.toList position.toInt))
  else if name = "sub_string" then
    some (textDatum (TextCut.subText s.toList position.toInt s.utf8ByteSize))
  else none

def positionsFunction? (name s : String) (start stop : Int64) : Option Datum :=
  if name = "substring" then some (textDatum (TextCut.between s.toList start.toInt stop.toInt))
  else if name = "sub_string" then
    some (textDatum (TextCut.subText s.toList start.toInt stop.toInt))
  else none

/-- Functions of any one datum.  No datum is ever shared. -/
def dataFunction? (name : String) (a : Datum) : Option Datum :=
  if name = "toString" ∨ name = "to_string" then some (.text a.spoken)
  else if name = "to_debug" then some (.text a.quoted)
  else if name = "Boolean" then some (Datum.bool a.truth)
  else if name = "type_of" then some (.text a.kind)
  else if name = "is_shared" then some (.bool false)
  else
    match a with
    | .text s => textFunction? name s
    | .list items =>
      if name = "len" then some (natDatum items.length)
      else if name = "is_empty" then some (Datum.bool items.isEmpty)
      else none
    | .map entries =>
      if name = "len" then some (natDatum entries.length)
      else if name = "is_empty" then some (Datum.bool entries.isEmpty)
      else if name = "keys" then some (.list (entries.map fun entry => .text entry.1))
      else if name = "values" then some (.list (entries.map Prod.snd))
      else none
    | .int n => intFunction? name n
    | .float x => floatFunction? name x
    | _ => none

def applyFunction (name : String) (arguments : List Datum) : Result :=
  let found : Option Datum :=
    match arguments with
    | [a] => dataFunction? name a
    | [.text s, .text other] => textsFunction? name s other
    | [.text s, .int position] => positionFunction? name s position
    | [.text s, .int start, .int stop] => positionsFunction? name s start stop
    | _ => none
  match found, arguments with
  | some value, _ => .ok value
  | none, [a, b] =>
    if name = "contains" then isIn b a
    else if name = "max" then (extreme? true a b).elim (.error .unknownFunction) .ok
    else if name = "min" then (extreme? false a b).elim (.error .unknownFunction) .ok
    else .error .unknownFunction
  | none, _ => .error .unknownFunction

/-- The property of a datum; a key that a map lacks is the unit. -/
def property (target : Datum) (name : String) : Result :=
  let unknown : Result := .error (.unknownProperty name)
  match target with
  | .map entries => .ok ((entries.lookup name).getD .unit)
  | .text s =>
    if name = "length" ∨ name = "len" then .ok (natDatum s.length)
    else if name = "is_empty" then .ok (Datum.bool s.isEmpty)
    else if name = "bytes" then .ok (natDatum s.utf8ByteSize)
    else unknown
  | .int n => (intProperty? name n).elim unknown .ok
  | .float x => (floatProperty? name x).elim unknown .ok
  | .list items =>
    if name = "len" then .ok (natDatum items.length)
    else if name = "is_empty" then .ok (Datum.bool items.isEmpty)
    else unknown
  | _ => unknown

/-- The position that an index stands for in a sequence of some length; a negative one counts from
the end. -/
def position? (index : Int) (length : Nat) : Option Nat :=
  if 0 ≤ index then (if index < length then some index.toNat else none)
  else if -index ≤ length then some (length - (-index).toNat)
  else none

def wordBits : Nat := 64

/-- The characters at a range of positions; a negative position counts from the end. -/
def textSpan (s : String) (first last : Int) (closed : Bool) : Result :=
  let length := s.length
  let start? := if 0 ≤ first then some first.toNat else position? first length
  match start? with
  | none => .error (.textIndex first)
  | some start =>
    let last := if 0 ≤ last then last else last + length
    let stop := (last + (if closed then 1 else 0)).toNat
    .ok (textDatum (TextCut.slice s.toList start stop))

/-- The bits at a range of positions, as a number; with the highest bit comes the sign. -/
def bitSpan (bits : Int) (first last : Int) (closed : Bool) : Result :=
  let inWord (index : Int) : Bool := decide (0 ≤ index) && decide (index < wordBits)
  if !inWord first then .error (.bitIndex first)
  else if !inWord last then .error (.bitIndex last)
  else
    let count := (last - first + (if closed then 1 else 0)).toNat
    let shifted := bits / twoTo first.toNat
    .ok (.int (Int64.ofInt
      (if first.toNat + count = wordBits then shifted else shifted % twoTo count)))

/-- The item, entry, character or bit at an index. -/
def item (target index : Datum) : Result :=
  match target, index with
  | .list items, .int n =>
    match (position? n.toInt items.length).bind fun position => items[position]? with
    | some value => .ok value
    | none => .error (.listIndex n.toInt)
  | .text s, .int n =>
    match (position? n.toInt s.length).bind fun position => s.toList[position]? with
    | some c => .ok (.char c)
    | none => .error (.textIndex n.toInt)
  | .int bits, .int n =>
    match position? n.toInt wordBits with
    | some position => .ok (.bool (bits.toInt / twoTo position % 2 = 1))
    | none => .error (.bitIndex n.toInt)
  | .text s, .range first last closed => textSpan s first.toInt last.toInt closed
  | .int bits, .range first last closed => bitSpan bits.toInt first.toInt last.toInt closed
  | .map entries, .text key => .ok ((entries.lookup key).getD .unit)
  | .list _, _ => .error .wrongType
  | .text _, _ => .error .wrongType
  | .int _, _ => .error .wrongType
  | .map _, _ => .error .wrongType
  | _, _ => .error .notIndexable

end Script

end Sluice
