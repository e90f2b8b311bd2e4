import Sluice.Yaml.Scalar

/-!
# Tokens

A document as a list of tokens.  Indentation opens and closes blocks.  A text that a colon follows
turns out to be a key only when the colon is met, so the place of each text that might be a key is
remembered, one for every open flow collection.  Such a key is short and stays on one line, and
where only a key can stand a text without a colon is refused.
-/

set_option autoImplicit false

namespace Sluice

namespace Yaml

inductive Token where
  | version (major minor : Nat)
  | tagHandle (handle start : String)
  | documentStart
  | documentEnd
  | blockSequenceStart
  | blockMappingStart
  | blockEnd
  | flowSequenceStart
  | flowSequenceEnd
  | flowMappingStart
  | flowMappingEnd
  | blockEntry
  | flowEntry
  | key
  | value
  | alias (name : String)
  | anchor (name : String)
  | tag (handle suffix : String)
  | scalar (text : String) (plain : Bool)
  | finish
  deriving DecidableEq, Repr

/-- A place where a key may have begun. -/
structure KeyPlace where
  required : Bool
  /-- How many tokens precede it. -/
  number : Nat
  index : Nat
  line : Nat
  column : Nat
  deriving DecidableEq, Repr

structure Scanner where
  cursor : Cursor
  /-- The tokens so far, the latest first, and their number. -/
  tokens : List Token
  count : Nat
  /-- The column of the open block, less than zero outside of all, and those around it. -/
  indent : Int
  outer : List Int
  /-- The possible key of the block, or of the innermost flow collection first. -/
  key? : Option KeyPlace
  /-- The possible keys around the open flow collections. -/
  outerKeys : List (Option KeyPlace)
  /-- A key may begin at the next token. -/
  keyAllowed : Bool

namespace Scanner

def start (text : List Char) : Scanner := ⟨.start text, [], 0, -1, [], none, [], true⟩

def inFlow (scanner : Scanner) : Bool := !scanner.outerKeys.isEmpty

def push (token : Token) (scanner : Scanner) : Scanner :=
  { scanner with tokens := token :: scanner.tokens, count := scanner.count + 1 }

/-- Puts a token behind the first `number` tokens. -/
def insert (number : Nat) (token : Token) (scanner : Scanner) : Scanner :=
  let behind := scanner.count - number
  { scanner with
    tokens := scanner.tokens.take behind ++ token :: scanner.tokens.drop behind
    count := scanner.count + 1 }

def moveTo (cursor : Cursor) (scanner : Scanner) : Scanner := { scanner with cursor := cursor }

def skip (scanner : Scanner) (n : Nat) : Scanner := scanner.moveTo (scanner.cursor.skipMany n)

def allowKey (allowed : Bool) (scanner : Scanner) : Scanner :=
  { scanner with keyAllowed := allowed }

/-! ## Keys -/

def keyMax : Nat := 1024

/-- A key place is out of reach once the line has changed or too much text has passed. -/
def isStale (cursor : Cursor) (place : KeyPlace) : Bool :=
  place.line < cursor.line || place.index + keyMax < cursor.index

/-- Forgets the possible key of the innermost level; a required one is refused. -/
def dropKey (scanner : Scanner) : Option Scanner :=
  match scanner.key? with
  | some place => if place.required then none else some { scanner with key? := none }
  | none => some scanner

def dropStaleKeys (scanner : Scanner) : Option Scanner :=
  let stale (place : Option KeyPlace) : Bool :=
    match place with
    | some place => isStale scanner.cursor place
    | none => false
  let refused (place : Option KeyPlace) : Bool :=
    match place with
    | some place => isStale scanner.cursor place && place.required
    | none => false
  if (scanner.key? :: scanner.outerKeys).any refused then none
  else
    some { scanner with
      key? := if stale scanner.key? then none else scanner.key?
      outerKeys := scanner.outerKeys.map fun place => if stale place then none else place }

/-- Remembers the place as that of a possible key, if one is allowed. -/
def saveKey (scanner : Scanner) : Option Scanner := do
  if scanner.keyAllowed then
    let scanner ← scanner.dropKey
    let cursor := scanner.cursor
    let required := !scanner.inFlow && scanner.indent = (cursor.column : Int)
    some { scanner with
      key? := some ⟨required, scanner.count, cursor.index, cursor.line, cursor.column⟩ }
  else some scanner

def enterFlow (scanner : Scanner) : Scanner :=
  { scanner with outerKeys := scanner.key? :: scanner.outerKeys, key? := none }

def leaveFlow (scanner : Scanner) : Scanner :=
  match scanner.outerKeys with
  | place :: rest => { scanner with key? := place, outerKeys := rest }
  | [] => scanner

/-! ## Indentation -/

/-- Opens a block at a column that is deeper than the open one; its token goes behind the first
`number` tokens. -/
def openBlock (column number : Nat) (token : Token) (scanner : Scanner) : Scanner :=
  if scanner.inFlow || (column : Int) ≤ scanner.indent then scanner
  else
    { scanner with outer := scanner.indent :: scanner.outer, indent := column }.insert number token

def openBlockHere (token : Token) (scanner : Scanner) : Scanner :=
  scanner.openBlock scanner.cursor.column scanner.count token

def closeBlocks (column : Int) (scanner : Scanner) : Scanner :=
  if scanner.inFlow then scanner
  else go scanner.outer.length scanner
where
  go : Nat → Scanner → Scanner
    | 0, scanner => scanner
    | most + 1, scanner =>
      if column < scanner.indent then
        match scanner.outer with
        | indent :: outer =>
          go most { scanner.push .blockEnd with indent := indent, outer := outer }
        | [] => scanner
      else scanner

/-! ## Blanks and comments -/

/-- Passes blanks, comments and line breaks.  A line break allows a key in a block. -/
def skipBlanks : Nat → Scanner → Scanner
  | 0, scanner => scanner
  | fuel + 1, scanner =>
    let cursor := scanner.cursor
    let cursor := if cursor.index = 0 && cursor.isAt byteOrderMark then cursor.skip else cursor
    let tabs := scanner.inFlow || !scanner.keyAllowed
    let cursor := cursor.skipWhile fun c => c = ' ' || (tabs && c = '\t')
    let cursor := if cursor.isAt '#' then cursor.skipWhile (!isBreak ·) else cursor
    if Cursor.holds cursor.peek? isBreak then
      let scanner := scanner.moveTo cursor.readBreak.2
      skipBlanks fuel (if scanner.inFlow then scanner else scanner.allowKey true)
    else scanner.moveTo cursor

/-! ## Directives -/

def versionDigitsMax : Nat := 9

def readVersionNumber (cursor : Cursor) : Option (Nat × Cursor) :=
  let digits := cursor.rest.takeWhile Char.isDigit
  if digits.isEmpty || versionDigitsMax < digits.length then none
  else some (digitsValue digits, cursor.skipMany digits.length)

/-- A handle: an exclamation mark, perhaps with a name and another mark behind it. -/
def readHandle (directive : Bool) (cursor : Cursor) : Option (List Char × Cursor) :=
  if !cursor.isAt '!' then none
  else
    let name := cursor.skip.rest.takeWhile isNameChar
    let after := cursor.skipMany (name.length + 1)
    if after.isAt '!' then some ('!' :: name ++ ['!'], after.skip)
    else if directive && !name.isEmpty then none
    else some ('!' :: name, after)

def isUriChar (verbatim : Bool) (c : Char) : Bool :=
  isNameChar c || ";/?:@&=+$.!~*'()".toList.contains c ||
    (verbatim && (c = ',' || c = '[' || c = ']'))

/-- The bytes of a part of an address; a percent sign and two digits stand for one byte. -/
def readUri (verbatim : Bool) : Nat → Bytes → Cursor → Option (Bytes × Cursor)
  | 0, bytes, cursor => some (bytes, cursor)
  | fuel + 1, bytes, cursor =>
    match cursor.rest with
    | '%' :: a :: b :: _ => do
      let byte := UInt8.ofNat (← hexValue? [a, b])
      readUri verbatim fuel (bytes ++ [byte]) (cursor.skipMany 3)
    | c :: _ =>
      if isUriChar verbatim c then
        readUri verbatim fuel (bytes ++ Utf8.encodeChar c) cursor.skip
      else if c = '%' then none
      else some (bytes, cursor)
    | [] => some (bytes, cursor)

/-- The part of an address from the cursor onward, with some text in front of it. -/
def readUriText (verbatim : Bool) (front : List Char) (cursor : Cursor) :
    Option (List Char × Cursor) := do
  let (bytes, after) ← readUri verbatim cursor.rest.length [] cursor
  some (front ++ (← Utf8.decode? bytes), after)

def readTagDirective (cursor : Cursor) : Option (Token × Cursor) := do
  let (handle, cursor) ← readHandle true (cursor.skipWhile isSpaceOrTab)
  if !Cursor.holds cursor.peek? isSpaceOrTab then none
  else
    let (start, cursor) ← readUriText true [] (cursor.skipWhile isSpaceOrTab)
    if start.isEmpty || !Cursor.isBlankOrEnd cursor.peek? then none
    else some (.tagHandle (String.ofList handle) (String.ofList start), cursor)

def readVersionDirective (cursor : Cursor) : Option (Token × Cursor) := do
  let (major, cursor) ← readVersionNumber (cursor.skipWhile isSpaceOrTab)
  if !cursor.isAt '.' then none
  else
    let (minor, cursor) ← readVersionNumber cursor.skip
    some (.version major minor, cursor)

def readDirective (cursor : Cursor) : Option (Token × Cursor) := do
  let name := cursor.rest.takeWhile isNameChar
  let after := cursor.skipMany name.length
  if !Cursor.isBlankOrEnd after.peek? then none
  else
    let (token, after) ←
      if name = "YAML".toList then readVersionDirective after
      else if name = "TAG".toList then readTagDirective after
      else none
    let after := after.skipComment
    if Cursor.isBreakOrEnd after.peek? then some (token, after.readBreak.2) else none

/-! ## Anchors and tags -/

def readAnchorName (cursor : Cursor) : Option (String × Cursor) :=
  let name := cursor.rest.takeWhile isNameChar
  let after := cursor.skipMany name.length
  if name.isEmpty then none
  else if Cursor.isBlankOrEnd after.peek? ||
      Cursor.holds after.peek? ("?:,]\x7d%@\x60".toList.contains ·) then
    some (String.ofList name, after)
  else none

/-- The handle and the suffix of a tag.  A lone exclamation mark is a suffix. -/
def readTag (cursor : Cursor) : Option (List Char × List Char × Cursor) := do
  if cursor.ahead? 1 = some '<' then
    let (suffix, after) ← readUriText true [] (cursor.skipMany 2)
    if suffix.isEmpty || !after.isAt '>' then none else some ([], suffix, after.skip)
  else
    let (handle, after) ← readHandle false cursor
    if 1 < handle.length && handle.getLast? = some '!' then
      let (suffix, after) ← readUriText false [] after
      if suffix.isEmpty then none else some (handle, suffix, after)
    else
      let (suffix, after) ← readUriText false (handle.drop 1) after
      if suffix.isEmpty then some ([], ['!'], after) else some (['!'], suffix, after)

/-! ## Tokens -/

def fetchDirective (scanner : Scanner) : Option Scanner := do
  let scanner ← (scanner.closeBlocks (-1)).dropKey
  let (token, cursor) ← readDirective scanner.cursor.skip
  some ((scanner.allowKey false).moveTo cursor |>.push token)

def fetchDocumentMark (token : Token) (scanner : Scanner) : Option Scanner := do
  let scanner ← (scanner.closeBlocks (-1)).dropKey
  some (((scanner.allowKey false).skip 3).push token)

def fetchFlowStart (token : Token) (scanner : Scanner) : Option Scanner := do
  let scanner ← scanner.saveKey
  some (((scanner.enterFlow.allowKey true).skip 1).push token)

def fetchFlowEnd (token : Token) (scanner : Scanner) : Option Scanner := do
  let scanner ← scanner.dropKey
  some (((scanner.leaveFlow.allowKey false).skip 1).push token)

def fetchFlowEntry (scanner : Scanner) : Option Scanner := do
  let scanner ← scanner.dropKey
  some (((scanner.allowKey true).skip 1).push .flowEntry)

/-- Opens a block for an entry or a key, which may stand only where a key may begin. -/
def openFor (token : Token) (scanner : Scanner) : Option Scanner :=
  if scanner.inFlow then some scanner
  else if scanner.keyAllowed then some (scanner.openBlockHere token)
  else none

def fetchBlockEntry (scanner : Scanner) : Option Scanner := do
  let scanner ← (← scanner.openFor .blockSequenceStart).dropKey
  some (((scanner.allowKey true).skip 1).push .blockEntry)

def fetchKey (scanner : Scanner) : Option Scanner := do
  let scanner ← (← scanner.openFor .blockMappingStart).dropKey
  some (((scanner.allowKey (!scanner.inFlow)).skip 1).push .key)

def fetchValue (scanner : Scanner) : Option Scanner :=
  match scanner.key? with
  | some place =>
    let scanner := (scanner.insert place.number .key).openBlock place.column place.number
      .blockMappingStart
    some ((({ scanner with key? := none }.allowKey false).skip 1).push .value)
  | none => do
    let scanner ← scanner.openFor .blockMappingStart
    some (((scanner.allowKey (!scanner.inFlow)).skip 1).push .value)

def fetchAnchor (token : String → Token) (scanner : Scanner) : Option Scanner := do
  let scanner ← scanner.saveKey
  let (name, cursor) ← readAnchorName scanner.cursor.skip
  some (((scanner.allowKey false).moveTo cursor).push (token name))

def fetchTag (scanner : Scanner) : Option Scanner := do
  let scanner ← scanner.saveKey
  let (handle, suffix, cursor) ← readTag scanner.cursor
  if Cursor.isBlankOrEnd cursor.peek? || (scanner.inFlow && cursor.isAt ',') then
    some (((scanner.allowKey false).moveTo cursor).push
      (.tag (String.ofList handle) (String.ofList suffix)))
  else none

def fetchBlockScalar (folds : Bool) (scanner : Scanner) : Option Scanner := do
  let scanner ← scanner.dropKey
  let (text, cursor) ← readBlock folds scanner.indent scanner.cursor.skip
  some (((scanner.allowKey true).moveTo cursor).push (.scalar (String.ofList text) false))

def fetchQuoted (single : Bool) (scanner : Scanner) : Option Scanner := do
  let scanner ← scanner.saveKey
  let cursor := scanner.cursor.skip
  let (text, cursor) ← readQuoted single (cursor.rest.length + 1) [] cursor
  some (((scanner.allowKey false).moveTo cursor).push (.scalar (String.ofList text) false))

def fetchPlain (scanner : Scanner) : Option Scanner := do
  let scanner ← scanner.saveKey
  let indent := (scanner.indent + 1).toNat
  let (text, broken, cursor) ←
    readPlain scanner.inFlow indent (scanner.cursor.rest.length + 1) [] .none scanner.cursor
  some (((scanner.allowKey broken).moveTo cursor).push (.scalar (String.ofList text) true))

def isIndicator (c : Char) : Bool := "-?:,[]\x7b\x7d#&*!|>\x27\x22%@\x60".toList.contains c

/-- A plain scalar may begin with some of the indicators when no blank follows them. -/
def beginsPlain (flow : Bool) (c : Char) (next : Option Char) : Bool :=
  !isIndicator c || (c = '-' && !Cursor.holds next isSpaceOrTab)
    || (!flow && (c = '?' || c = ':') && !Cursor.isBlankOrEnd next)

def fetchAt (c : Char) (scanner : Scanner) : Option Scanner :=
  let cursor := scanner.cursor
  let next := cursor.ahead? 1
  let flow := scanner.inFlow
  if cursor.column = 0 && c = '%' then scanner.fetchDirective
  else if cursor.atDocumentMark then
    scanner.fetchDocumentMark (if c = '-' then .documentStart else .documentEnd)
  else if c = '[' then scanner.fetchFlowStart .flowSequenceStart
  else if c = '\x7b' then scanner.fetchFlowStart .flowMappingStart
  else if c = ']' then scanner.fetchFlowEnd .flowSequenceEnd
  else if c = '\x7d' then scanner.fetchFlowEnd .flowMappingEnd
  else if c = ',' then scanner.fetchFlowEntry
  else if c = '-' && Cursor.isBlankOrEnd next then scanner.fetchBlockEntry
  else if c = '?' && (flow || Cursor.isBlankOrEnd next) then scanner.fetchKey
  else if c = ':' && (flow || Cursor.isBlankOrEnd next) then scanner.fetchValue
  else if c = '*' then scanner.fetchAnchor .alias
  else if c = '&' then scanner.fetchAnchor .anchor
  else if c = '!' then scanner.fetchTag
  else if c = '|' && !flow then scanner.fetchBlockScalar false
  else if c = '>' && !flow then scanner.fetchBlockScalar true
  else if c = '\'' then scanner.fetchQuoted true
  else if c = '"' then scanner.fetchQuoted false
  else if !isSpaceOrTab c && beginsPlain flow c next then scanner.fetchPlain
  else none

def run : Nat → Scanner → Option (List Token)
  | 0, _ => none
  | fuel + 1, scanner => do
    let scanner ← (scanner.skipBlanks (scanner.cursor.rest.length + 1)).dropStaleKeys
    let scanner := scanner.closeBlocks scanner.cursor.column
    match scanner.cursor.peek? with
    | none =>
      let scanner ← (scanner.closeBlocks (-1)).dropKey
      some (Token.finish :: scanner.tokens).reverse
    | some c => run fuel (← scanner.fetchAt c)

end Scanner

/-- The tokens of a document; none if it has a character or a token that it must not have. -/
def tokens? (text : List Char) : Option (List Token) :=
  let text := if text.head? = some byteOrderMark then text.drop 1 else text
  if text.all isAllowed then Scanner.run (text.length + 1) (.start text) else none

end Yaml

end Sluice
