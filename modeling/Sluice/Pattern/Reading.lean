import Sluice.Number.Reading
import Sluice.Json.Reading
import Sluice.Text.Blank
import Sluice.Pattern.Property
import Sluice.Pattern.Tree

/-!
# Reading patterns

The text of a search pattern becomes a tree, or nothing when it is malformed.  Look-around and
references to groups are malformed: a pattern is always a regular language.
-/

set_option autoImplicit false

namespace Sluice

namespace Pattern

structure Options where
  anyCase : Bool
  lines : Bool
  dotMatchesLineFeed : Bool
  unicode : Bool
  carriageReturns : Bool
  spaced : Bool

def Options.standard : Options := ⟨false, false, false, true, false, false⟩

def Options.wordKind (o : Options) : WordKind := if o.unicode then .unicode else .ascii

def dropComment (text : List Char) : List Char := (text.dropWhile (· ≠ '\n')).drop 1

/-- Passes over blanks and comments, where the options allow them. -/
def skipSpace (o : Options) : Nat → List Char → List Char
  | 0, text => text
  | _ + 1, [] => []
  | fuel + 1, c :: rest =>
    if !o.spaced then c :: rest
    else if isBlank c then skipSpace o fuel rest
    else if c = '#' then skipSpace o fuel (dropComment rest)
    else c :: rest

def skip (o : Options) (text : List Char) : List Char := skipSpace o (text.length + 1) text

/-! ## Sets -/

/-- Adds the other case where the options ask for it, then takes the complement if asked; where
only ASCII counts, the set must stay within it. -/
def closeSet? (o : Options) (negated : Bool) (set : CharSet) : Option CharSet :=
  let set :=
    if !o.anyCase then set else if o.unicode then .anyCase set else .anyAsciiCase set
  let set := if negated then .complement set else set
  if o.unicode then some set
  else if set.isAscii then some (.intersection set (.range 0 0x7F))
  else none

def literalSet (o : Options) (c : Char) : CharSet :=
  let set := CharSet.single c.toNat
  if !o.anyCase then set
  else if o.unicode then .anyCase set
  else if c.toNat < 128 then .anyAsciiCase set
  else set

/-- The classes of the letters d, s and w; a capital is the complement. -/
def letterClass? (o : Options) (c : Char) : Option CharSet :=
  let pair : Option (CharSet × CharSet) :=
    if c.toLower = 'd' then some (.digit, .asciiDigit)
    else if c.toLower = 's' then some (.blank, .asciiBlank)
    else if c.toLower = 'w' then some (.word, .asciiWord)
    else none
  pair.bind fun (unicode, ascii) =>
    if o.unicode then some (if c.isUpper then .complement unicode else unicode)
    else if c.isUpper then none
    else some ascii

/-- Any character that is no end of a line, or any at all. -/
def dotSet? (o : Options) : Option CharSet :=
  if !o.unicode then none
  else if o.dotMatchesLineFeed then some .any
  else if o.carriageReturns then some (.complement (.union (.single 10) (.single 13)))
  else some (.complement (.single 10))

/-! ## Escapes -/

/-- What an escape or a plain character stands for. -/
inductive Atom where
  | char (c : Char)
  | set (set : CharSet)
  | edge (edge : Edge)

/-- The characters that have a meaning in some place of a pattern. -/
def isMeta (c : Char) : Bool := "\\.+*?()|[]\x7b\x7d^$#&-~".toList.contains c

/-- A character that may be escaped to stand for itself. -/
def mayEscape (c : Char) : Bool :=
  isMeta c || (decide (c.toNat < 128) && !c.isAlphanum && c != '<' && c != '>')

def charOfCode? (n : Nat) : Option Char := if n.isValidChar then some (Char.ofNat n) else none

/-- A number of exactly `count` hexadecimal digits. -/
def hexDigits? (o : Options) : Nat → Nat → List Char → Option (Nat × List Char)
  | 0, value, text => some (value, text)
  | count + 1, value, text =>
    match text with
    | [] => none
    | c :: rest => do hexDigits? o count (value * 16 + (← Json.hexValue? c)) (skip o rest)

/-- Hexadecimal digits up to the closing brace, at least one. -/
def hexBraced? (o : Options) : Nat → Option Nat → List Char → Option (Nat × List Char)
  | 0, _, _ => none
  | _ + 1, _, [] => none
  | fuel + 1, value?, c :: rest =>
    if c = '\x7d' then value?.map fun value => (value, skip o rest)
    else do
      let digit ← Json.hexValue? c
      hexBraced? o fuel (some (min (value?.getD 0 * 16 + digit) 0x110000)) (skip o rest)

/-- A character by number, after the letter `x`, `u` or `U`. -/
def hexEscape? (o : Options) (letter : Char) (text : List Char) : Option (Atom × List Char) :=
  match skip o text with
  | '\x7b' :: rest => do
    let (code, rest) ← hexBraced? o (rest.length + 1) none (skip o rest)
    some (.char (← charOfCode? code), rest)
  | text => do
    let count := if letter = 'x' then 2 else if letter = 'u' then 4 else 8
    let (code, rest) ← hexDigits? o count 0 text
    if letter = 'x' && !o.unicode && decide (0x7F < code) then none
    else some (.char (← charOfCode? code), rest)

def splitAt? (separator : List Char) : List Char → Option (List Char × List Char)
  | [] => none
  | c :: rest =>
    if (c :: rest).take separator.length = separator then
      some ([], (c :: rest).drop separator.length)
    else (splitAt? separator rest).map fun (front, back) => (c :: front, back)

/-- The set of the text between braces, and whether the text itself asks for the complement. -/
def bracedSet? (name : List Char) : Option (CharSet × Bool) :=
  match splitAt? ['!', '='] name with
  | some (property, value) => (valueSet? property value).map (·, true)
  | none =>
    match splitAt? [':'] name with
    | some (property, value) => (valueSet? property value).map (·, false)
    | none =>
      match splitAt? ['='] name with
      | some (property, value) => (valueSet? property value).map (·, false)
      | none => (namedSet? name).map (·, false)

/-- A property, after the letter `p` or `P`. -/
def propertyEscape? (o : Options) (negated : Bool) (text : List Char) :
    Option (Atom × List Char) := do
  let close (set : CharSet) (negated : Bool) (rest : List Char) : Option (Atom × List Char) :=
    if o.unicode then (closeSet? o negated set).map fun set => (.set set, rest) else none
  match skip o text with
  | [] => none
  | '\x7b' :: rest =>
    let name := rest.takeWhile (· ≠ '\x7d')
    if name.length = rest.length then none
    else
      let name := if o.spaced then name.filter (!isBlank ·) else name
      let (set, inverse) ← bracedSet? name
      close set (negated != inverse) (rest.drop (rest.takeWhile (· ≠ '\x7d')).length.succ)
  | c :: rest =>
    if c = '\\' then none
    else close (← namedSet? [c]) negated (skip o rest)

/-- The edge that `\b` with a name in braces stands for; `none` means that no name follows. -/
def namedEdge? (o : Options) (text : List Char) : Option (Option Edge × List Char) :=
  match text with
  | '\x7b' :: rest =>
    match skip o rest with
    | [] => none
    | c :: more =>
      if !(c.isAlpha || c = '-') then some (none, text)
      else
        let letters := (c :: more).filter fun c => !(o.spaced && isBlank c)
        let name := letters.takeWhile fun c => c.isAlpha || c = '-'
        match letters.drop name.length with
        | '\x7d' :: _ =>
          let k := o.wordKind
          let rest := ((c :: more).dropWhile (· ≠ '\x7d')).drop 1
          if name = "start".toList then some (some (.wordStart k), rest)
          else if name = "end".toList then some (some (.wordEnd k), rest)
          else if name = "start-half".toList then some (some (.noWordBefore k), rest)
          else if name = "end-half".toList then some (some (.noWordAfter k), rest)
          else none
        | _ => none
  | _ => some (none, text)

def escape? (o : Options) : List Char → Option (Atom × List Char)
  | [] => none
  | c :: rest =>
    if c.isDigit then none
    else if c = 'x' ∨ c = 'u' ∨ c = 'U' then hexEscape? o c rest
    else if c = 'p' ∨ c = 'P' then propertyEscape? o (c = 'P') rest
    else if mayEscape c then some (.char c, rest)
    else
      match letterClass? o c with
      | some set => some (.set set, rest)
      | none =>
        if c = 'a' then some (.char '\x07', rest)
        else if c = 'f' then some (.char '\x0c', rest)
        else if c = 't' then some (.char '\t', rest)
        else if c = 'n' then some (.char '\n', rest)
        else if c = 'r' then some (.char '\r', rest)
        else if c = 'v' then some (.char '\x0b', rest)
        else if c = 'A' then some (.edge .textStart, rest)
        else if c = 'z' then some (.edge .textEnd, rest)
        else if c = 'b' then
          (namedEdge? o rest).map fun (edge?, rest) =>
            (.edge (edge?.getD (.wordEdge o.wordKind)), rest)
        else if c = 'B' then some (.edge (.noWordEdge o.wordKind), rest)
        else if c = '<' then some (.edge (.wordStart o.wordKind), rest)
        else if c = '>' then some (.edge (.wordEnd o.wordKind), rest)
        else none

/-! ## Sets in brackets -/

inductive SetOperation where
  | intersection
  | difference
  | symmetricDifference

def SetOperation.apply : SetOperation → CharSet → CharSet → CharSet
  | intersection, a, b => .intersection a b
  | difference, a, b => .difference a b
  | symmetricDifference, a, b => .symmetricDifference a b

def setOperation? : List Char → Option (SetOperation × List Char)
  | '&' :: '&' :: rest => some (.intersection, rest)
  | '-' :: '-' :: rest => some (.difference, rest)
  | '~' :: '~' :: rest => some (.symmetricDifference, rest)
  | _ => none

/-- The left operand of an operation whose right operand is being read. -/
abbrev PendingSet := Option (SetOperation × CharSet)

def PendingSet.close (o : Options) (pending : PendingSet) (set : CharSet) : CharSet :=
  match pending with
  | none => set
  | some (operation, left) =>
    let fold (set : CharSet) : CharSet :=
      if !o.anyCase then set else if o.unicode then .anyCase set else .anyAsciiCase set
    operation.apply (fold left) (fold set)

/-- A class such as `[:alpha:]` or `[:^alpha:]`, from its bracket on. -/
def asciiClass? (o : Options) (text : List Char) : Option (Option CharSet × List Char) :=
  match text with
  | '[' :: ':' :: rest =>
    let (negated, rest) := match rest with
      | '^' :: rest => (true, rest)
      | _ => (false, rest)
    let name := rest.takeWhile (· ≠ ':')
    match rest.drop name.length with
    | ':' :: ']' :: rest =>
      (CharSet.asciiClass? (String.ofList name)).map fun set => (closeSet? o negated set, rest)
    | _ => none
  | _ => none

def setAtom? (o : Options) : List Char → Option (Atom × List Char)
  | [] => none
  | '\\' :: rest => escape? o rest
  | c :: rest => some (.char c, rest)

def setChar? (o : Options) (c : Char) : Option Nat :=
  if o.unicode || decide (c.toNat < 128) then some c.toNat else none

def setItem? (o : Options) (text : List Char) : Option (CharSet × List Char) := do
  let (atom, rest) ← setAtom? o text
  let rest := skip o rest
  let next (rest : List Char) : Option Char := (skip o rest).head?
  let isRange : Bool := match rest with
    | '-' :: more => next more != some ']' && next more != some '-'
    | _ => false
  if rest.isEmpty then none
  else if isRange then
    let (last, rest) ← setAtom? o (skip o (rest.drop 1))
    match atom, last with
    | .char a, .char b =>
      let a ← setChar? o a
      let b ← setChar? o b
      if a ≤ b then some (.range a b, rest) else none
    | _, _ => none
  else
    match atom with
    | .char c => some (.single (← setChar? o c), rest)
    | .set set => some (set, rest)
    | .edge _ => none

def leadingHyphens (o : Options) : Nat → CharSet → List Char → CharSet × List Char
  | 0, set, text => (set, text)
  | fuel + 1, set, text =>
    match text with
    | '-' :: rest => leadingHyphens o fuel (.union set (.single '-'.toNat)) (skip o rest)
    | _ => (set, text)

/-- The beginning of a set, after its bracket: whether it is a complement, and the hyphens or the
bracket that stand for themselves. -/
def openSet (o : Options) (text : List Char) : Bool × CharSet × List Char :=
  let text := skip o text
  let (negated, text) := match text with
    | '^' :: rest => (true, skip o rest)
    | _ => (false, text)
  match text with
  | ']' :: rest => (negated, .single ']'.toNat, skip o rest)
  | _ =>
    let (set, text) := leadingHyphens o text.length .none text
    (negated, set, text)

def readSet? (o : Options) : Nat → Nat → PendingSet → CharSet → List Char →
    Option (CharSet × List Char)
  | 0, _, _, _, _ => none
  | fuel + 1, depth, pending, set, text =>
    let text := skip o text
    match setOperation? text with
    | some (operation, rest) =>
      readSet? o fuel depth (some (operation, pending.close o set)) .none rest
    | none =>
      match text with
      | [] => none
      | ']' :: rest => some (pending.close o set, rest)
      | '[' :: rest =>
        match asciiClass? o text with
        | some (some inner, rest) => readSet? o fuel depth pending (.union set inner) rest
        | some (none, _) => none
        | none => do
          if depth = 0 then none
          else
            let (negated, first, rest) := openSet o rest
            let (inner, rest) ← readSet? o fuel (depth - 1) none first rest
            let inner ← closeSet? o negated inner
            readSet? o fuel depth pending (.union set inner) rest
      | _ => do
        let (item, rest) ← setItem? o text
        readSet? o fuel depth pending (.union set item) rest

/-- Parts of a pattern that may nest. -/
def depthMax : Nat := 250

/-- A set, after its opening bracket. -/
def bracketSet? (o : Options) (text : List Char) : Option (CharSet × List Char) := do
  let (negated, first, rest) := openSet o text
  let (set, rest) ← readSet? o (text.length + 1) depthMax none first rest
  some (← closeSet? o negated set, rest)

/-! ## Repetitions -/

/-- A question mark asks for the shortest repetition, which makes no difference to a search. -/
def dropLazy : List Char → List Char
  | '?' :: rest => rest
  | text => text

def countMax : Nat := 4294967295

/-- A count, with the blanks around it. -/
def count? (o : Options) (text : List Char) : Option (Nat × List Char) :=
  let rec digits : Nat → List Char → List Char → List Char × List Char
    | 0, found, text => (found.reverse, text)
    | _ + 1, found, [] => (found.reverse, [])
    | fuel + 1, found, c :: rest =>
      if c.isDigit then digits fuel (c :: found) (skip o rest) else (found.reverse, c :: rest)
  let (found, rest) := digits (text.length + 1) [] (text.dropWhile isBlank)
  let value := digitsValue found
  if found.isEmpty || decide (countMax < value) then none
  else some (value, skip o (rest.dropWhile isBlank))

/-- The counts of a repetition, after its opening brace. -/
def counts? (o : Options) (text : List Char) : Option (Nat × Option Nat × List Char) := do
  let (least, rest) ← count? o (skip o text)
  let finish (most : Option Nat) (rest : List Char) : Option (Nat × Option Nat × List Char) :=
    match rest with
    | '\x7d' :: rest => some (least, most, dropLazy (skip o rest))
    | _ => none
  match rest with
  | ',' :: rest =>
    match skip o rest with
    | '\x7d' :: rest => finish none ('\x7d' :: rest)
    | rest => do
      let (most, rest) ← count? o rest
      if least ≤ most then finish (some most) rest else none
  | rest => finish (some least) rest

def repeatLast? (least : Nat) (most : Option Nat) : List Tree → Option (List Tree)
  | [] => none
  | .options :: _ => none
  | item :: items => some (.repeated item least most :: items)

/-! ## Groups -/

/-- The options that follow `(?`, up to the character that ends them. -/
def readOptions? : Nat → Options → Bool → List Char → List Char →
    Option (Options × List Char × List Char)
  | 0, _, _, _, _ => none
  | _ + 1, _, _, _, [] => none
  | fuel + 1, o, on, seen, c :: rest =>
    if c = ':' ∨ c = ')' then
      if seen.head? = some '-' then none else some (o, seen, c :: rest)
    else if seen.contains c then none
    else if c = '-' then readOptions? fuel o false (c :: seen) rest
    else
      let next? : Option Options :=
        if c = 'i' then some { o with anyCase := on }
        else if c = 'm' then some { o with lines := on }
        else if c = 's' then some { o with dotMatchesLineFeed := on }
        else if c = 'U' then some o
        else if c = 'u' then some { o with unicode := on }
        else if c = 'R' then some { o with carriageReturns := on }
        else if c = 'x' then some { o with spaced := on }
        else none
      match next? with
      | some next => readOptions? fuel next on (c :: seen) rest
      | none => none

def isLetter (c : Char) : Bool :=
  if c.toNat < 128 then c.isAlpha
  else ((property? "alphabetic").getD .none).contains c.toNat

def isNumeral (c : Char) : Bool :=
  if c.toNat < 128 then c.isDigit else (categories ["Nd", "Nl", "No"]).contains c.toNat

/-- The name of a group, up to its closing angle bracket. -/
def groupName? (text : List Char) : Option (String × List Char) :=
  let name := text.takeWhile (· ≠ '>')
  let isTail (c : Char) : Bool :=
    c = '_' || c = '.' || c = '[' || c = ']' || isLetter c || isNumeral c
  match name with
  | [] => none
  | first :: tail =>
    if name.length = text.length then none
    else if (first = '_' || isLetter first) && tail.all isTail then
      some (String.ofList name, text.drop (name.length + 1))
    else none

/-- What is still to be read, the options in force, and the group names that are taken. -/
structure Cursor where
  text : List Char
  options : Options
  names : List String

inductive Opening where
  | setting (cursor : Cursor)
  | group (cursor : Cursor)

/-- The beginning of a group or a setting of options, after the parenthesis. -/
def openGroup? (here : Cursor) : Option Opening :=
  let text := skip here.options here.text
  let named (rest : List Char) : Option Opening := do
    let (name, rest) ← groupName? rest
    if here.names.contains name then none
    else some (.group ⟨rest, here.options, name :: here.names⟩)
  match text with
  | '?' :: '=' :: _ => none
  | '?' :: '!' :: _ => none
  | '?' :: '<' :: '=' :: _ => none
  | '?' :: '<' :: '!' :: _ => none
  | '?' :: 'P' :: '<' :: rest => named rest
  | '?' :: '<' :: rest => named rest
  | '?' :: rest => do
    let (options, seen, rest) ← readOptions? (rest.length + 1) here.options true [] rest
    match rest with
    | ')' :: rest => if seen.isEmpty then none else some (.setting ⟨rest, options, here.names⟩)
    | _ :: rest => some (.group ⟨rest, options, here.names⟩)
    | [] => none
  | _ => some (.group { here with text := text })

/-! ## Patterns -/

def Atom.tree (o : Options) : Atom → Tree
  | .char c => .chars (literalSet o c)
  | .set s => .chars s
  | .edge e => .edge e

/-- A character outside brackets, or an escape. -/
def plainAtom? (o : Options) (c : Char) (rest : List Char) : Option (Tree × List Char) :=
  if c = '\\' then do
    let (atom, rest) ← escape? o rest
    some (atom.tree o, rest)
  else if c = '.' then (dotSet? o).map fun set => (.chars set, rest)
  else if c = '^' then
    some (.edge (if !o.lines then .textStart
      else if o.carriageReturns then .anyLineStart else .lineStart), rest)
  else if c = '$' then
    some (.edge (if !o.lines then .textEnd
      else if o.carriageReturns then .anyLineEnd else .lineEnd), rest)
  else some (.chars (literalSet o c), rest)

/-- Branches of a pattern up to a closing parenthesis or the end; the branches and the items of the
open branch are kept with the last one first. -/
def readTree? : Nat → Cursor → List Tree → List Tree → Option (Tree × Cursor)
  | 0, _, _, _ => none
  | fuel + 1, here, branches, items =>
    let o := here.options
    let text := skip o here.text
    let branch := Tree.ofItems items.reverse
    match text with
    | [] => some (.ofBranches (branch :: branches).reverse, { here with text := [] })
    | c :: rest =>
      let next (rest : List Char) (items : List Tree) : Option (Tree × Cursor) :=
        readTree? fuel { here with text := rest } branches items
      if c = ')' then some (.ofBranches (branch :: branches).reverse, { here with text := text })
      else if c = '|' then readTree? fuel { here with text := rest } (branch :: branches) []
      else if c = '(' then do
        match ← openGroup? { here with text := rest } with
        | .setting cursor => readTree? fuel cursor branches (.options :: items)
        | .group cursor =>
          let (body, after) ← readTree? fuel cursor [] []
          match after.text with
          | ')' :: rest => readTree? fuel ⟨rest, o, after.names⟩ branches (.group body :: items)
          | _ => none
      else if c = '[' then do
        let (set, rest) ← bracketSet? o rest
        next rest (.chars set :: items)
      else if c = '?' then do next (dropLazy rest) (← repeatLast? 0 (some 1) items)
      else if c = '*' then do next (dropLazy rest) (← repeatLast? 0 none items)
      else if c = '+' then do next (dropLazy rest) (← repeatLast? 1 none items)
      else if c = '\x7b' then do
        if items.isEmpty then none
        else
          let (least, most, rest) ← counts? o rest
          next rest (← repeatLast? least most items)
      else do
        let (atom, rest) ← plainAtom? o c rest
        next rest (atom :: items)

/-- Chosen to come close to the limit on the size of compiled patterns. -/
def weightMax : Nat := 327680

def read? (text : String) : Option Tree :=
  let text := text.toList
  match readTree? (text.length + 2) ⟨text, .standard, []⟩ [] [] with
  | some (tree, after) =>
    if after.text.isEmpty && decide (tree.depth ≤ depthMax) && decide (tree.weight ≤ weightMax) then
      some tree
    else none
  | none => none

end Pattern

end Sluice
