import Sluice.Json

/-!
# Reading JSON

Text becomes a document, or nothing when it is malformed.  A float is read in steps: its first
digits as a 64-bit natural, digits past that range only as powers of ten, and the power applied by
one product or quotient for each 308 decades; a number past the largest finite one is malformed.
Lists and objects nest less than 128 deep.
-/

set_option autoImplicit false

namespace Sluice

namespace Json

def isJsonBlank (c : Char) : Bool := c = ' ' || c = '\n' || c = '\t' || c = '\r'

def skipBlanks (source : List Char) : List Char := source.dropWhile isJsonBlank

/-! ## Texts -/

def hexValue? (c : Char) : Option Nat :=
  if '0' ≤ c ∧ c ≤ '9' then some (c.toNat - '0'.toNat)
  else if 'a' ≤ c ∧ c ≤ 'f' then some (c.toNat - 'a'.toNat + 10)
  else if 'A' ≤ c ∧ c ≤ 'F' then some (c.toNat - 'A'.toNat + 10)
  else none

def hexUnit? : List Char → Option (Nat × List Char)
  | a :: b :: c :: d :: rest => do
    let a ← hexValue? a
    let b ← hexValue? b
    let c ← hexValue? c
    let d ← hexValue? d
    some (((a * 16 + b) * 16 + c) * 16 + d, rest)
  | _ => none

/-- The character of an escape by number; a high surrogate needs a low one after it. -/
def unicodeEscape? (source : List Char) : Option (Char × List Char) := do
  let (high, rest) ← hexUnit? source
  if 0xDC00 ≤ high ∧ high ≤ 0xDFFF then none
  else if 0xD800 ≤ high ∧ high ≤ 0xDBFF then
    match rest with
    | '\\' :: 'u' :: rest => do
      let (low, rest) ← hexUnit? rest
      if 0xDC00 ≤ low ∧ low ≤ 0xDFFF then
        some (Char.ofNat (0x10000 + (high - 0xD800) * 1024 + (low - 0xDC00)), rest)
      else none
    | _ => none
  else some (Char.ofNat high, rest)

def escape? : List Char → Option (Char × List Char)
  | [] => none
  | c :: rest =>
    if c = '"' ∨ c = '\\' ∨ c = '/' then some (c, rest)
    else if c = 'b' then some ('\x08', rest)
    else if c = 'f' then some ('\x0c', rest)
    else if c = 'n' then some ('\n', rest)
    else if c = 'r' then some ('\r', rest)
    else if c = 't' then some ('\t', rest)
    else if c = 'u' then unicodeEscape? rest
    else none

/-- The text up to the closing quote, and what follows it. -/
def readQuoted : Nat → List Char → Option (List Char × List Char)
  | 0, _ => none
  | _ + 1, [] => none
  | fuel + 1, c :: rest =>
    if c = '"' then some ([], rest)
    else if c.toNat < 0x20 then none
    else do
      let (c, rest) ← if c = '\\' then escape? rest else some (c, rest)
      let (body, rest) ← readQuoted fuel rest
      some (c :: body, rest)

/-! ## Numbers -/

/-- The limit of the leading digits of a number. -/
def significandMax : Nat := 18446744073709551615

/-- Digits of a number: the natural of the leading ones, the power of ten of those left out or
after the point, and what follows. -/
structure NumberScan where
  significand : Nat
  exponent : Int
  rest : List Char

/-- Adds digits while they fit; `step` is the power of ten that each one counts for. -/
def takeDigits (step : Int) : List Char → Nat → Int → NumberScan
  | [], significand, exponent => ⟨significand, exponent, []⟩
  | c :: rest, significand, exponent =>
    match digitValue? c with
    | none => ⟨significand, exponent, c :: rest⟩
    | some d =>
      if 10 * significand + d ≤ significandMax then
        takeDigits step rest (10 * significand + d) (exponent + step)
      else ⟨significand, exponent, c :: rest⟩

def countDigits (source : List Char) : Nat × List Char :=
  let (digits, rest) := spanDigits source
  (digits.length, rest)

/-- The quotient by a power of ten below one, in steps of at most 308 decades. -/
def scaleDown : Nat → Binary64 → Nat → Binary64
  | 0, x, _ => x
  | fuel + 1, x, decades =>
    if decades ≤ 308 then x.div (Binary64.ofInt (tenTo decades))
    else if x.isZero then x
    else scaleDown fuel (x.div (Binary64.ofInt (tenTo 308))) (decades - 308)

/-- A natural times a power of ten; nothing when it is past the largest float. -/
def scaled? (significand : Nat) (exponent : Int) : Option Binary64 :=
  let x := Binary64.ofInt significand
  if exponent < 0 then some (scaleDown 8 x exponent.natAbs)
  else if exponent ≤ 308 then
    let scaled := x.mul (Binary64.ofInt (tenTo exponent.toNat))
    if scaled.isInfinite then none else some scaled
  else if x.isZero then some x
  else none

/-- The largest exponent that is told apart. -/
def exponentMax : Nat := 2147483647

/-- A float with its exponent part, if one follows. -/
def readScaled (negative : Bool) (scan : NumberScan) : Option (Json × List Char) :=
  let finish (exponent : Int) (rest : List Char) : Option (Json × List Char) :=
    (scaled? scan.significand exponent).map fun x => (float (if negative then x.neg else x), rest)
  match scan.rest with
  | c :: rest =>
    if c = 'e' ∨ c = 'E' then
      let read (down : Bool) (rest : List Char) : Option (Json × List Char) :=
        match spanDigits rest with
        | ([], _) => none
        | (digits, rest) =>
          let size := min (digitsValue (digits.dropWhile (· = '0') |>.take 10)) (exponentMax + 1)
          if exponentMax < size then
            if scan.significand ≠ 0 && !down then none
            else some (float (Binary64.ofMagnitude negative 0), rest)
          else finish (if down then scan.exponent - size else scan.exponent + size) rest
      match rest with
      | '+' :: rest => read false rest
      | '-' :: rest => read true rest
      | rest => read false rest
    else finish scan.exponent scan.rest
  | [] => finish scan.exponent []

def readFraction (negative : Bool) (scan : NumberScan) : Option (Json × List Char) :=
  match scan.rest with
  | [] => none
  | c :: _ =>
    if (digitValue? c).isNone then none
    else
      let fraction := takeDigits (-1) scan.rest scan.significand scan.exponent
      readScaled negative { fraction with rest := (countDigits fraction.rest).2 }

def readNumberTail (negative : Bool) (scan : NumberScan) : Option (Json × List Char) :=
  match scan.rest with
  | '.' :: rest => readFraction negative { scan with rest := rest }
  | 'e' :: _ => readScaled negative scan
  | 'E' :: _ => readScaled negative scan
  | rest =>
    if scan.exponent ≠ 0 then readScaled negative scan
    else if negative then
      if scan.significand = 0 ∨ 9223372036854775808 < scan.significand then
        some (float (Binary64.ofInt scan.significand).neg, rest)
      else some (int (-(scan.significand : Int)), rest)
    else some (int scan.significand, rest)

/-- A number without its sign: no digit follows a leading zero. -/
def readUnsigned (negative : Bool) : List Char → Option (Json × List Char)
  | [] => none
  | c :: rest =>
    match digitValue? c with
    | none => none
    | some 0 =>
      match rest with
      | d :: _ => if (digitValue? d).isSome then none else readNumberTail negative ⟨0, 0, rest⟩
      | [] => readNumberTail negative ⟨0, 0, []⟩
    | some _ =>
      let whole := takeDigits 0 (c :: rest) 0 0
      let (left, rest) := countDigits whole.rest
      readNumberTail negative ⟨whole.significand, left, rest⟩

def readNumber : List Char → Option (Json × List Char)
  | '-' :: rest => readUnsigned true rest
  | source => readUnsigned false source

/-! ## Documents -/

def dropWord? (word source : List Char) : Option (List Char) :=
  if source.take word.length = word then some (source.drop word.length) else none

/-- Lists and objects that can be open at once. -/
def depthMax : Nat := 127

mutual

/-- A value at the front of the text; `depth` more lists or objects can be opened. -/
def readValue : Nat → Nat → List Char → Option (Json × List Char)
  | 0, _, _ => none
  | fuel + 1, depth, source =>
    match skipBlanks source with
    | [] => none
    | c :: rest =>
      if c = '"' then
        (readQuoted (rest.length + 1) rest).map fun (body, rest) =>
          (text (String.ofList body), rest)
      else if c = 'n' then (dropWord? "ull".toList rest).map fun rest => (null, rest)
      else if c = 't' then (dropWord? "rue".toList rest).map fun rest => (bool true, rest)
      else if c = 'f' then (dropWord? "alse".toList rest).map fun rest => (bool false, rest)
      else if c = '[' then
        if depth = 0 then none
        else
          match skipBlanks rest with
          | ']' :: rest => some (list [], rest)
          | rest => (readItems fuel (depth - 1) rest).map fun (items, rest) => (list items, rest)
      else if c = '\x7b' then
        if depth = 0 then none
        else
          match skipBlanks rest with
          | '\x7d' :: rest => some (object [], rest)
          | rest =>
            (readMembers fuel (depth - 1) rest).map fun (members, rest) => (ofMembers members, rest)
      else readNumber (c :: rest)

/-- One item or more, up to the closing bracket. -/
def readItems : Nat → Nat → List Char → Option (List Json × List Char)
  | 0, _, _ => none
  | fuel + 1, depth, source => do
    let (item, rest) ← readValue fuel depth source
    match skipBlanks rest with
    | ',' :: rest => do
      let (items, rest) ← readItems fuel depth rest
      some (item :: items, rest)
    | ']' :: rest => some ([item], rest)
    | _ => none

/-- One member or more, up to the closing brace. -/
def readMembers : Nat → Nat → List Char → Option (Members × List Char)
  | 0, _, _ => none
  | fuel + 1, depth, source =>
    match skipBlanks source with
    | '"' :: rest => do
      let (name, rest) ← readQuoted (rest.length + 1) rest
      match skipBlanks rest with
      | ':' :: rest => do
        let (value, rest) ← readValue fuel depth rest
        let member := (String.ofList name, value)
        match skipBlanks rest with
        | ',' :: rest => do
          let (members, rest) ← readMembers fuel depth rest
          some (member :: members, rest)
        | '\x7d' :: rest => some ([member], rest)
        | _ => none
      | _ => none
    | _ => none

end

def read? (source : List Char) : Option Json :=
  match readValue (2 * source.length + 2) depthMax source with
  | some (json, rest) => if (skipBlanks rest).isEmpty then some json else none
  | none => none

end Json

end Sluice
