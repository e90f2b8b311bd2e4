import Sluice.Json.Reading
import Sluice.Number.Reading
import Sluice.Yaml.Node

/-!
# Documents as JSON

An untagged plain scalar is null, a truth value or a number if it is written like one, and a text
otherwise; any other scalar is a text unless one of the standard tags says what it is.  Integers
beyond 64 bits are refused up to 128 bits and floats from there.  A key is the text of its scalar.
Nesting is limited, and so is how often aliases are followed.
-/

set_option autoImplicit false

namespace Sluice

namespace Yaml

/-! ## Scalars -/

def isNullText (text : String) : Bool := ["null", "Null", "NULL", "~"].contains text

def truthOf? (text : String) : Option Bool :=
  if ["true", "True", "TRUE"].contains text then some true
  else if ["false", "False", "FALSE"].contains text then some false
  else none

/-- Digits behind a leading zero: a text, not a number. -/
def isZeroLed (text : List Char) : Bool :=
  let digits := match text with
    | '-' :: rest => rest
    | '+' :: rest => rest
    | digits => digits
  decide (1 < digits.length) && digits.head? = some '0' && digits.all Char.isDigit

/-- The natural of some digits to a base; there must be a digit. -/
def naturalOf? (base : Nat) (digits : List Char) : Option Nat :=
  if digits.isEmpty then none
  else digits.foldlM (fun n c =>
    match Json.hexValue? c with
    | some d => if d < base then some (n * base + d) else none
    | none => none) 0

/-- The base that a mark in front of digits calls for, and the digits. -/
def basedDigits : List Char → Nat × List Char
  | '0' :: 'x' :: digits => (16, digits)
  | '0' :: 'o' :: digits => (8, digits)
  | '0' :: 'b' :: digits => (2, digits)
  | digits => (10, digits)

def integerOf? (text : List Char) : Option Int :=
  let natural (digits : List Char) : Option Nat :=
    let (base, digits) := basedDigits digits
    naturalOf? base digits
  if isZeroLed text then none
  else
    match text with
    | '-' :: digits => (natural digits).map fun n => -(n : Int)
    | '+' :: digits => (natural digits).map fun n => (n : Int)
    | digits => (natural digits).map fun n => (n : Int)

/-- The bounds of integers: those of 64 bits are kept, others of 128 bits are refused. -/
inductive IntegerRange where
  | kept
  | refused
  | tooLarge
  deriving DecidableEq, Repr

def rangeOf (n : Int) : IntegerRange :=
  if int64Min ≤ n ∧ n < twoTo 64 then .kept
  else if -(twoTo 127 : Int) ≤ n ∧ n < twoTo 128 then .refused
  else .tooLarge

/-- The float that a text is written like; the texts of infinities and of a not-a-number, which
JSON lacks, give null. -/
def floatOf? (text : String) : Option Json :=
  let unsigned := match text.toList with
    | '+' :: rest => rest
    | rest => rest
  let signedTwice := text.toList.head? = some '+' &&
    (unsigned.head? = some '+' || unsigned.head? = some '-')
  if signedTwice then none
  else if [".inf", ".Inf", ".INF"].contains (String.ofList unsigned) ||
      ["-.inf", "-.Inf", "-.INF", ".nan", ".NaN", ".NAN"].contains text then some .null
  else
    match readDecimal (String.ofList unsigned) with
    | .ok x => if x.isFinite then some (.float x) else none
    | .error _ => none

/-- An integer, refused or kept, or none. -/
def integerJson? (text : String) : Option (Option Json) :=
  match integerOf? text.toList with
  | some n =>
    match rangeOf n with
    | .kept => some (some (.int n))
    | .refused => some none
    | .tooLarge => none
  | none => none

/-- What an untagged plain scalar stands for; none if it is refused. -/
def plainJson (text : String) : Option Json :=
  if text.isEmpty || isNullText text then some .null
  else
    match truthOf? text with
    | some truth => some (.bool truth)
    | none =>
      match integerJson? text with
      | some json => json
      | none =>
        if isZeroLed text.toList then some (.text text)
        else some ((floatOf? text).getD (.text text))

def standardTag (name : String) : String := "tag:yaml.org,2002:" ++ name

/-- A tag of the document's own. -/
def isLocalTag (tag : Option String) : Bool :=
  match tag with
  | some tag => tag.toList.head? = some '!'
  | none => false

/-- What a scalar stands for; a tag of the document's own is refused. -/
def scalarJson (tag : Option String) (text : String) (plain : Bool) : Option Json :=
  match tag with
  | none => if plain then plainJson text else some (.text text)
  | some tag =>
    if isLocalTag (some tag) then none
    else if tag = standardTag "bool" then (truthOf? text).map Json.bool
    else if tag = standardTag "int" then (integerJson? text).join
    else if tag = standardTag "float" then floatOf? text
    else if tag = standardTag "null" then if isNullText text then some .null else none
    else some (.text text)

/-! ## Nodes -/

def depthMax : Nat := 128

/-- How often aliases may be followed for each event of the document. -/
def followsPerEvent : Nat := 100

/-- A conversion that counts how often aliases may still be followed. -/
abbrev Convert := StateT Nat Option

namespace Document

/-- The node itself, or the one that an alias stands for. -/
def follow (document : Document) : Node → Convert Node
  | .alias number => do
    match ← get with
    | 0 => failure
    | left + 1 =>
      set left
      match document.target? number with
      | some node => return node
      | none => failure
  | node => return node

def keyText (document : Document) (node : Node) : Convert String := do
  match ← document.follow node with
  | .scalar _ text _ => return text
  | _ => failure

mutual

/-- A node as JSON, with at most `depth` collections nested in it. -/
def toJson (document : Document) (depth : Nat) (node : Node) : Convert Json := do
  match ← document.follow node with
  | .scalar tag text plain =>
    match scalarJson tag text plain with
    | some json => return json
    | none => failure
  | .sequence tag items =>
    match depth with
    | 0 => failure
    | depth + 1 =>
      if isLocalTag tag then failure
      else return .list (← toJsonItems document depth items)
  | .mapping tag members =>
    if isLocalTag tag then failure
    else return .object (← toMembers document depth members)
  | .alias _ => failure
termination_by (depth, 1, 0)

def toJsonItems (document : Document) (depth : Nat) (items : List Node) : Convert (List Json) := do
  match items with
  | [] => return []
  | item :: rest =>
    let first ← toJson document depth item
    return first :: (← toJsonItems document depth rest)
termination_by (depth, 2, items.length)

/-- The members of a mapping that itself counts for the depth; the last member of a key stays. -/
def toMembers (document : Document) (depth : Nat) (members : List (Node × Node)) :
    Convert Members := do
  match depth with
  | 0 => failure
  | depth + 1 =>
    let pairs ← toPairs document depth members
    return pairs.foldl (fun sorted pair => setSorted pair.1 pair.2 sorted) []
termination_by (depth, 0, 0)

def toPairs (document : Document) (depth : Nat) (members : List (Node × Node)) :
    Convert (List (String × Json)) := do
  match members with
  | [] => return []
  | (key, value) :: rest =>
    let name ← keyText document key
    let first ← toJson document depth value
    return (name, first) :: (← toPairs document depth rest)
termination_by (depth, 2, members.length)

end

/-- How often aliases may be followed in the document. -/
def followMax (document : Document) : Nat := document.events * followsPerEvent

/-- The whole document as JSON; null if there is none. -/
def json? (document : Document) : Option Json :=
  match document.root with
  | none => some .null
  | some root => (document.toJson depthMax root).run' document.followMax

end Document

/-- The JSON that a document stands for; none if it is malformed. -/
def read? (text : String) : Option Json := do
  (← Document.ofText? text.toList).json?

end Yaml

end Sluice
