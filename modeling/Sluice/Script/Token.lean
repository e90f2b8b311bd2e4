import Sluice.Json.Reading
import Sluice.Script.Operation

/-!
# Tokens

A source in plain form is cut into tokens.  A minus directly before a digit belongs to the number,
unless an operand stands before it.  A text in back quotes may hold expressions in `${…}`, whose
tokens are kept inside the token of the text.
-/

set_option autoImplicit false

namespace Sluice

namespace Script

inductive Punctuation where
  | openParen
  | closeParen
  | openBracket
  | closeBracket
  | openBrace
  | closeBrace
  | openMap
  | comma
  | colon
  | arrow
  | dot
  /-- A property or method that is passed over when there is no datum. -/
  | safeDot
  /-- An index that is passed over when there is no datum. -/
  | safeBracket
  deriving DecidableEq, Repr

mutual

inductive Token where
  | int (number : Int64)
  | float (number : Binary64)
  | text (text : String)
  | char (char : Char)
  | template (parts : List TemplatePart)
  | name (name : String)
  /-- A name of the language: `true`, `if`, `in` and the like. -/
  | word (word : String)
  | operator (operator : BinaryOperator)
  | andAlso
  | orElse
  | coalesce
  | not
  | notIn
  | mark (mark : Punctuation)

inductive TemplatePart where
  | words (text : String)
  | code (tokens : List Token)

end

instance : Inhabited Token := ⟨.not⟩

def languageWords : List String := ["true", "false", "if", "else", "in", "switch", "_"]

def refusedWords : List String :=
  ["let", "const", "do", "while", "until", "loop", "for", "fn", "private", "import",
    "export", "as", "continue", "break", "return", "throw", "try", "catch", "var", "static",
    "begin", "end", "shared", "is", "each", "then", "goto", "exit", "unless", "match", "case",
    "public", "protected", "new", "use", "with", "module", "package", "super", "thread", "spawn",
    "go", "sync", "async", "await", "yield", "default", "void", "null", "nil", "this"]

/-- Blanks between tokens: those of the ASCII range. -/
def isTokenBlank (c : Char) : Bool := c = ' ' || c = '\t' || c = '\n' || c = '\r' || c = '\x0c'

def isNameStart (c : Char) : Bool := c.isAlpha || c = '_'
def isNameChar (c : Char) : Bool := c.isAlphanum || c = '_'

def isValidName (name : List Char) : Bool :=
  match name.dropWhile (· = '_') with
  | c :: _ => c.isAlpha
  | [] => false

def nameToken? (name : List Char) : Option Token :=
  let text := String.ofList name
  if languageWords.contains text then some (.word text)
  else if refusedWords.contains text || !isValidName name then none
  else some (.name text)

/-- An operand ends with this token, so that a minus after it is an operator. -/
def Token.endsOperand : Token → Bool
  | .int _ => true
  | .float _ => true
  | .text _ => true
  | .char _ => true
  | .template _ => true
  | .name _ => true
  | .word w => w = "true" || w = "false"
  | .mark m => m = .closeParen || m = .closeBracket || m = .closeBrace
  | _ => false

/-! ## Comments -/

/-- What follows a comment in `/* … */`, which may hold others; an open one ends with the source. -/
def skipBlock : Nat → List Char → List Char
  | 0, rest => rest
  | _, [] => []
  | depth + 1, '*' :: '/' :: rest => skipBlock depth rest
  | depth + 1, '/' :: '*' :: rest => skipBlock (depth + 2) rest
  | depth + 1, _ :: rest => skipBlock (depth + 1) rest

/-! ## Numbers -/

/-- A number in a base, as its digits are read without underscores; `none` for an empty one. -/
def baseDigits (isDigit : Char → Bool) (text : List Char) : List Char × List Char :=
  let digits := text.takeWhile fun c => isDigit c || c = '_'
  (digits.filter (· ≠ '_'), text.drop digits.length)

/-- An integer of 64 bits in a power-of-two base; its highest bit is the sign. -/
def baseNumber? (base : Nat) (negative : Bool) (digits : List Char) : Option Token :=
  let value := digits.foldl (fun n c => n * base + (Json.hexValue? c).getD 0) 0
  if digits.isEmpty || decide (twoTo 64 ≤ value) then none
  else
    let number := Int64.ofInt value
    some (.int (if negative then -number else number))

/-- What a point after digits leads to: the digits of a fraction, nothing, or no fraction at all. -/
def fractionAfter (text : List Char) : Option (List Char × List Char) :=
  match text with
  | '.' :: c :: rest =>
    if c.isDigit then some (baseDigits Char.isDigit (c :: rest))
    else if c = '_' || c = '.' || isNameStart c then none
    else some ([], c :: rest)
  | _ => none

/-- The exponent after digits, with its sign. -/
def exponentAfter (text : List Char) : Option (List Char × List Char) :=
  match text with
  | e :: rest =>
    if e = 'e' ∨ e = 'E' then
      match rest with
      | '+' :: rest =>
        let (digits, rest) := baseDigits Char.isDigit rest
        some ('+' :: digits, rest)
      | '-' :: rest =>
        let (digits, rest) := baseDigits Char.isDigit rest
        some ('-' :: digits, rest)
      | c :: _ => if c.isDigit then some (baseDigits Char.isDigit rest) else none
      | [] => none
    else none
  | [] => none

/-- A decimal number; an integer past 64 bits is a float. -/
def decimalNumber? (negative : Bool) (text : List Char) : Option (Token × List Char) := do
  let sign := if negative then ['-'] else []
  let (whole, rest) := baseDigits Char.isDigit text
  let (fraction, rest) := match fractionAfter rest with
    | some (digits, rest) => ('.' :: digits, rest)
    | none => ([], rest)
  let (exponent, rest) := match exponentAfter rest with
    | some (digits, rest) => ('e' :: digits, rest)
    | none => ([], rest)
  let float (digits : List Char) : Option (Token × List Char) :=
    match readDecimal (String.ofList digits) with
    | .ok x => some (.float x, rest)
    | .error _ => none
  if fraction.isEmpty && exponent.isEmpty then
    match readInt (String.ofList (sign ++ whole)) with
    | .ok n => some (.int n, rest)
    | .error _ => float (sign ++ whole)
  else float (sign ++ whole ++ fraction ++ exponent)

/-- A number, from its first digit on. -/
def number? (negative : Bool) (text : List Char) : Option (Token × List Char) :=
  let based (base : Nat) (isDigit : Char → Bool) (rest : List Char) : Option (Token × List Char) :=
    let (digits, rest) := baseDigits isDigit rest
    (baseNumber? base negative digits).map fun token => (token, rest)
  match text with
  | '0' :: c :: rest =>
    if c = 'x' ∨ c = 'X' then based 16 (fun c => (Json.hexValue? c).isSome) rest
    else if c = 'o' ∨ c = 'O' then based 8 (fun c => '0' ≤ c && c ≤ '7') rest
    else if c = 'b' ∨ c = 'B' then based 2 (fun c => c = '0' || c = '1') rest
    else decimalNumber? negative text
  | _ => decimalNumber? negative text

/-! ## Texts -/

/-- A number of `count` hexadecimal digits as a character. -/
def hexChar? (count : Nat) (text : List Char) : Option (Char × List Char) :=
  let digits := text.take count
  let value? := digits.foldl (fun n c => do some ((← n) * 16 + (← Json.hexValue? c))) (some 0)
  match value? with
  | some value =>
    if digits.length = count ∧ value.isValidChar then some (Char.ofNat value, text.drop count)
    else none
  | none => none

def textEscape? (quote : Char) : List Char → Option (Char × List Char)
  | [] => none
  | c :: rest =>
    if c = '\\' ∨ c = quote then some (c, rest)
    else if c = 't' then some ('\t', rest)
    else if c = 'n' then some ('\n', rest)
    else if c = 'r' then some ('\r', rest)
    else if c = 'x' then hexChar? 2 rest
    else if c = 'u' then hexChar? 4 rest
    else if c = 'U' then hexChar? 8 rest
    else none

/-- The text up to the closing quote, which counts as itself when it is doubled. -/
def quotedText? (quote : Char) : Nat → List Char → Option (List Char × List Char)
  | 0, _ => none
  | _ + 1, [] => none
  | fuel + 1, c :: rest =>
    let onward (c : Char) (rest : List Char) : Option (List Char × List Char) :=
      (quotedText? quote fuel rest).map fun (text, rest) => (c :: text, rest)
    if c = quote then
      match rest with
      | d :: rest => if d = quote then onward quote rest else some ([], d :: rest)
      | [] => some ([], [])
    else if c = '\n' then none
    else if c = '\\' then
      match rest with
      | '\n' :: rest => quotedText? quote fuel rest
      | rest =>
        match textEscape? quote rest with
        | some (c, rest) => onward c rest
        | none => none
    else onward c rest

/-! ## Operators -/

/-- The operators and marks that a source can begin with, longest first. -/
def symbols : List (List Char × Token) := [
  (['*', '*'], .operator .pow), (['.', '.', '='], .operator .closedRange),
  (['.', '.'], .operator .range), (['<', '<'], .operator .shiftLeft),
  (['>', '>'], .operator .shiftRight), (['=', '='], .operator .eq), (['!', '='], .operator .ne),
  (['=', '>'], .mark .arrow),
  (['<', '='], .operator .le), (['>', '='], .operator .ge), (['&', '&'], .andAlso),
  (['|', '|'], .orElse), (['?', '?'], .coalesce), (['?', '.'], .mark .safeDot),
  (['?', '['], .mark .safeBracket), (['#', '\x7b'], .mark .openMap),
  (['+'], .operator .add), (['-'], .operator .sub), (['*'], .operator .mul),
  (['/'], .operator .div), (['%'], .operator .rem), (['<'], .operator .lt),
  (['>'], .operator .gt), (['&'], .operator .bitAnd), (['|'], .operator .bitOr),
  (['^'], .operator .bitXor), (['!'], .not), (['('], .mark .openParen),
  ([')'], .mark .closeParen), (['['], .mark .openBracket), ([']'], .mark .closeBracket),
  (['\x7b'], .mark .openBrace), (['\x7d'], .mark .closeBrace), ([','], .mark .comma),
  ([':'], .mark .colon), (['.'], .mark .dot)]

def refusedSymbols : List (List Char) := [
  ['=', '=', '='], ['!', '=', '='], ['-', '>'], ['<', '-'], ['+', '+'], ['-', '-'], ['.', '.', '.'],
  ['(', '*'], ['*', ')'], ['!', '.'], ['|', '>'], ['<', '|'], [':', ':'], [':', ';'],
  ['+', '='], ['-', '='], ['*', '='], ['/', '='], ['%', '='], ['&', '='], ['|', '='], ['^', '='],
  ['<', '<', '='], ['>', '>', '='], ['*', '*', '=']]

def symbol? (text : List Char) : Option (Token × List Char) :=
  if refusedSymbols.any (·.isPrefixOf text) then none
  else
    (symbols.find? (·.1.isPrefixOf text)).map fun (run, token) => (token, text.drop run.length)

/-! ## Sources -/

/-- What follows `!in`, which is an operator of its own where no longer name begins. -/
def notIn? : List Char → Option (List Char)
  | '!' :: 'i' :: 'n' :: rest =>
    match rest with
    | c :: _ => if isNameChar c then none else some rest
    | [] => some rest
  | _ => none

/-- Parts with a text before them, unless it is empty. -/
def wordsPart (text : List Char) (parts : List TemplatePart) : List TemplatePart :=
  if text.isEmpty then parts else .words (String.ofList text) :: parts

def dropFirstBreak : List Char → List Char
  | '\r' :: '\n' :: rest => rest
  | '\r' :: rest => rest
  | '\n' :: rest => rest
  | text => text

mutual

/-- The tokens of a source.  Inside a text in back quotes they end before the brace that closes
the expression; `depth` counts the braces open in it, and is `none` outside such texts. -/
def readTokens : Nat → Option Nat → Bool → List Char → Option (List Token × List Char)
  | 0, _, _, _ => none
  | _ + 1, depth, _, [] => if depth.isSome then none else some ([], [])
  | fuel + 1, depth, afterOperand, c :: rest =>
    let text := c :: rest
    let emit (token : Token) (depth : Option Nat) (rest : List Char) :
        Option (List Token × List Char) :=
      (readTokens fuel depth token.endsOperand rest).map fun (tokens, rest) =>
        (token :: tokens, rest)
    if isTokenBlank c then readTokens fuel depth afterOperand rest
    else if c = '/' ∧ rest.head? = some '/' then
      readTokens fuel depth afterOperand (rest.dropWhile (· ≠ '\n'))
    else if c = '/' ∧ rest.head? = some '*' then
      readTokens fuel depth afterOperand (skipBlock 1 (rest.drop 1))
    else if c.isDigit then do
      let (token, rest) ← number? false text
      emit token depth rest
    else if c = '-' ∧ !afterOperand ∧ (rest.head?.any Char.isDigit) then do
      let (token, rest) ← number? true rest
      emit token depth rest
    else if isNameStart c then do
      let name := text.takeWhile isNameChar
      emit (← nameToken? name) depth (text.drop name.length)
    else if c = '"' then do
      let (body, rest) ← quotedText? '"' (rest.length + 1) rest
      emit (.text (String.ofList body)) depth rest
    else if c = '\'' then do
      match ← quotedText? '\'' (rest.length + 1) rest with
      | ([char], rest) => emit (.char char) depth rest
      | _ => none
    else if c = '`' then do
      let (parts, rest) ← readTemplate fuel [] (dropFirstBreak rest)
      match parts with
      | [] => emit (.text "") depth rest
      | [.words text] => emit (.text text) depth rest
      | parts => emit (.template parts) depth rest
    else if c = '\x7d' ∧ depth = some 0 then some ([], rest)
    else
      match notIn? text with
      | some rest => emit .notIn depth rest
      | none => do
        let (token, rest) ← symbol? text
        let depth := match token with
          | .mark .openBrace => depth.map (· + 1)
          | .mark .openMap => depth.map (· + 1)
          | .mark .closeBrace => depth.map (· - 1)
          | _ => depth
        emit token depth rest

/-- The parts of a text in back quotes up to its end; `words` are the characters of the open part,
the last one first. -/
def readTemplate : Nat → List Char → List Char → Option (List TemplatePart × List Char)
  | 0, _, _ => none
  | _ + 1, _, [] => none
  | fuel + 1, words, c :: rest =>
    if c = '`' then
      match rest with
      | '`' :: rest => readTemplate fuel ('`' :: words) rest
      | rest => some (wordsPart words.reverse [], rest)
    else if c = '$' ∧ rest.head? = some '\x7b' then do
      let (tokens, rest) ← readTokens fuel (some 0) false (rest.drop 1)
      let (parts, rest) ← readTemplate fuel [] rest
      some (wordsPart words.reverse (.code tokens :: parts), rest)
    else readTemplate fuel (c :: words) rest

end

def tokens? (source : List Char) : Option (List Token) :=
  (readTokens (source.length + 1) none false source).map Prod.fst

end Script

end Sluice
