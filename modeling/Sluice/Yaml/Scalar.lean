import Sluice.Json.Reading
import Sluice.Yaml.Cursor

/-!
# Scalars

Plain, quoted and block scalars.  Within plain and quoted scalars a gap is folded: a line break
becomes a space, further breaks stay, and spaces around breaks are dropped.
-/

set_option autoImplicit false

namespace Sluice

namespace Yaml

/-! ## Gaps -/

/-- The blanks between two words: spaces on one line, or the first break and those after it. -/
structure Gap where
  broken : Bool
  spaces : List Char
  lead : List Char
  trail : List Char
  deriving DecidableEq, Repr

namespace Gap

def none : Gap := ⟨false, [], [], []⟩

/-- The gap behind a line end that was escaped. -/
def escaped : Gap := ⟨true, [], [], []⟩

def folded (gap : Gap) : List Char :=
  if gap.broken then
    if gap.lead = ['\n'] then if gap.trail.isEmpty then [' '] else gap.trail
    else gap.lead ++ gap.trail
  else gap.spaces

end Gap

/-- Passes the blanks of a gap.  After a break, a tab in front of the column `indent` is refused. -/
def readGap (indent : Nat) : Nat → Gap → Cursor → Option (Gap × Cursor)
  | 0, gap, cursor => some (gap, cursor)
  | fuel + 1, gap, cursor =>
    match cursor.peek? with
    | some c =>
      if isSpaceOrTab c then
        if gap.broken then
          if c = '\t' && cursor.column < indent then none else readGap indent fuel gap cursor.skip
        else readGap indent fuel { gap with spaces := gap.spaces ++ [c] } cursor.skip
      else if isBreak c then
        let (text, after) := cursor.readBreak
        let gap := if gap.broken then { gap with trail := gap.trail ++ text }
          else ⟨true, [], text, []⟩
        readGap indent fuel gap after
      else some (gap, cursor)
    | none => some (gap, cursor)

/-! ## Plain scalars -/

def isFlowMark (c : Char) : Bool := c = ',' || c = '[' || c = ']' || c = '{' || c = '}'

def endsWord (flow : Bool) (cursor : Cursor) : Bool :=
  match cursor.peek? with
  | none => true
  | some c =>
    isSpaceOrTab c || isBreak c || (c = ':' && Cursor.isBlankOrEnd (cursor.ahead? 1))
      || (flow && isFlowMark c)

/-- A colon that stands right before a mark of a flow collection. -/
def isStrayColon (flow : Bool) (cursor : Cursor) : Bool :=
  flow && cursor.isAt ':' && Cursor.holds (cursor.ahead? 1) fun c => isFlowMark c || c = '?'

/-- The word of a plain scalar, and whether a stray colon was met. -/
def readWord (flow : Bool) : Nat → List Char → Cursor → Option (List Char × Cursor)
  | 0, word, cursor => some (word.reverse, cursor)
  | fuel + 1, word, cursor =>
    if isStrayColon flow cursor then none
    else if endsWord flow cursor then some (word.reverse, cursor)
    else
      match cursor.peek? with
      | some c => readWord flow fuel (c :: word) cursor.skip
      | none => some (word.reverse, cursor)

/-- The words of a plain scalar from a gap onward; also tells whether it ends behind a break. -/
def readPlain (flow : Bool) (indent : Nat) :
    Nat → List Char → Gap → Cursor → Option (List Char × Bool × Cursor)
  | 0, text, gap, cursor => some (text, gap.broken, cursor)
  | fuel + 1, text, gap, cursor =>
    if cursor.atDocumentMark || cursor.isAt '#' then some (text, gap.broken, cursor)
    else do
      let (word, cursor) ← readWord flow cursor.rest.length [] cursor
      let text := if word.isEmpty then text else text ++ gap.folded ++ word
      let gap := if word.isEmpty then gap else .none
      if !Cursor.holds cursor.peek? fun c => isSpaceOrTab c || isBreak c then
        some (text, gap.broken, cursor)
      else
        let (gap, cursor) ← readGap indent cursor.rest.length .none cursor
        if !flow && cursor.column < indent then some (text, gap.broken, cursor)
        else readPlain flow indent fuel text gap cursor

/-! ## Quoted scalars -/

def hexValue? : List Char → Option Nat
  | [] => some 0
  | digits => digits.foldlM (fun n c => (Json.hexValue? c).map (n * 16 + ·)) 0

/-- The character of a code point, which must be none of a pair. -/
def charOf? (n : Nat) : Option Char := if h : n.isValidChar then some (Char.ofNatAux n h) else none

def readCode (count : Nat) (cursor : Cursor) : Option (Char × Cursor) := do
  let digits := cursor.rest.take count
  if digits.length < count then none
  else
    let c ← charOf? (← hexValue? digits)
    some (c, cursor.skipMany count)

/-- What an escape stands for; the cursor is at the character behind the backslash. -/
def readEscape (cursor : Cursor) : Option (Char × Cursor) :=
  match cursor.peek? with
  | none => none
  | some c =>
    let after := cursor.skip
    match c with
    | '0' => some ('\x00', after)
    | 'a' => some ('\x07', after)
    | 'b' => some ('\x08', after)
    | 't' => some ('\t', after)
    | '\t' => some ('\t', after)
    | 'n' => some ('\n', after)
    | 'v' => some ('\x0B', after)
    | 'f' => some ('\x0C', after)
    | 'r' => some ('\r', after)
    | 'e' => some ('\x1B', after)
    | ' ' => some (' ', after)
    | '"' => some ('"', after)
    | '/' => some ('/', after)
    | '\\' => some ('\\', after)
    | 'N' => some ('\x85', after)
    | '_' => some ('\xA0', after)
    | 'L' => some ('\u2028', after)
    | 'P' => some ('\u2029', after)
    | 'x' => readCode 2 after
    | 'u' => readCode 4 after
    | 'U' => readCode 8 after
    | _ => none

/-- A word of a quoted scalar: its text, and whether an escaped line end closes it. -/
def readQuotedWord (single : Bool) : Nat → List Char → Cursor → Option (List Char × Bool × Cursor)
  | 0, word, cursor => some (word.reverse, false, cursor)
  | fuel + 1, word, cursor =>
    match cursor.peek? with
    | none => some (word.reverse, false, cursor)
    | some c =>
      if isSpaceOrTab c || isBreak c then some (word.reverse, false, cursor)
      else if single then
        if c = '\'' then
          if cursor.ahead? 1 = some '\'' then
            readQuotedWord single fuel ('\'' :: word) (cursor.skipMany 2)
          else some (word.reverse, false, cursor)
        else readQuotedWord single fuel (c :: word) cursor.skip
      else if c = '"' then some (word.reverse, false, cursor)
      else if c = '\\' then
        if Cursor.holds (cursor.ahead? 1) isBreak then
          some (word.reverse, true, cursor.skip.readBreak.2)
        else do
          let (escaped, after) ← readEscape cursor.skip
          readQuotedWord single fuel (escaped :: word) after
      else readQuotedWord single fuel (c :: word) cursor.skip

def readQuoted (single : Bool) : Nat → List Char → Cursor → Option (List Char × Cursor)
  | 0, _, _ => none
  | fuel + 1, text, cursor =>
    if cursor.atDocumentMark || cursor.atEnd then none
    else do
      let (word, escaped, cursor) ← readQuotedWord single cursor.rest.length [] cursor
      let text := text ++ word
      if !escaped && cursor.isAt (if single then '\'' else '"') then some (text, cursor.skip)
      else
        let gap := if escaped then Gap.escaped else .none
        let (gap, cursor) ← readGap 0 cursor.rest.length gap cursor
        readQuoted single fuel (text ++ gap.folded) cursor

/-! ## Block scalars -/

/-- What happens to the line ends at the end of a block scalar. -/
inductive Chomping where
  | strip
  | clip
  | keep
  deriving DecidableEq, Repr

def readChomping (cursor : Cursor) : Option Chomping × Cursor :=
  if cursor.isAt '+' then (some .keep, cursor.skip)
  else if cursor.isAt '-' then (some .strip, cursor.skip)
  else (none, cursor)

/-- An indentation of one to nine; zero is refused. -/
def readIncrement (cursor : Cursor) : Option (Nat × Cursor) :=
  match cursor.peek? with
  | some c =>
    if c = '0' then none
    else if '1' ≤ c ∧ c ≤ '9' then some (c.toNat - '0'.toNat, cursor.skip)
    else some (0, cursor)
  | none => some (0, cursor)

/-- The chomping and the indentation of a block scalar, in either order. -/
def readBlockHeader (cursor : Cursor) : Option (Chomping × Nat × Cursor) := do
  match readChomping cursor with
  | (some chomping, cursor) =>
    let (increment, cursor) ← readIncrement cursor
    some (chomping, increment, cursor)
  | (none, cursor) =>
    let (increment, cursor) ← readIncrement cursor
    if increment = 0 then some (.clip, 0, cursor)
    else
      let (chomping, cursor) := readChomping cursor
      some (chomping.getD .clip, increment, cursor)

/-- Passes indentation and empty lines: the line breaks, the deepest column and the place after. -/
def readIndentation (indent : Nat) :
    Nat → List Char → Nat → Cursor → Option (List Char × Nat × Cursor)
  | 0, breaks, deepest, cursor => some (breaks, deepest, cursor)
  | fuel + 1, breaks, deepest, cursor =>
    let room := if indent = 0 then cursor.rest.length else indent - cursor.column
    let cursor := cursor.skipMany ((cursor.rest.take room).takeWhile (· = ' ')).length
    let deepest := max deepest cursor.column
    if (indent = 0 || cursor.column < indent) && cursor.isAt '\t' then none
    else if Cursor.holds cursor.peek? isBreak then
      let (text, cursor) := cursor.readBreak
      readIndentation indent fuel (breaks ++ text) deepest cursor
    else some (breaks, deepest, cursor)

/-- The state between two lines of a block scalar: its text, the break behind it, the breaks of
empty lines, and whether the last line began with a blank. -/
structure BlockText where
  text : List Char
  lead : List Char
  trail : List Char
  blank : Bool
  deriving DecidableEq, Repr

/-- The text with the breaks in front of the next line, folded if the scalar is. -/
def BlockText.joined (block : BlockText) (folds nextBlank : Bool) : List Char :=
  let lead :=
    if folds && block.lead = ['\n'] && !block.blank && !nextBlank then
      if block.trail.isEmpty then [' '] else []
    else block.lead
  block.text ++ lead ++ block.trail

def readBlockLines (folds : Bool) (indent : Nat) :
    Nat → BlockText → Cursor → Option (BlockText × Cursor)
  | 0, block, cursor => some (block, cursor)
  | fuel + 1, block, cursor =>
    if cursor.column = indent && !cursor.atEnd then do
      let nextBlank := Cursor.holds cursor.peek? isSpaceOrTab
      let line := cursor.rest.takeWhile fun c => !isBreak c
      let (lead, after) := (cursor.skipMany line.length).readBreak
      let (trail, _, after) ← readIndentation indent (after.rest.length + 1) [] 0 after
      readBlockLines folds indent fuel
        ⟨block.joined folds nextBlank ++ line, lead, trail, nextBlank⟩ after
    else some (block, cursor)

/-- A block scalar behind its mark; `outer` is the indentation around it, less than zero at the
top. -/
def readBlock (folds : Bool) (outer : Int) (cursor : Cursor) : Option (List Char × Cursor) := do
  let (chomping, increment, cursor) ← readBlockHeader cursor
  let cursor := cursor.skipComment
  if !Cursor.isBreakOrEnd cursor.peek? then none
  else
    let cursor := cursor.readBreak.2
    let given := if increment = 0 then 0 else outer.toNat + increment
    let (trail, deepest, cursor) ← readIndentation given (cursor.rest.length + 1) [] 0 cursor
    let indent := if given = 0 then max deepest (max (outer + 1).toNat 1) else given
    let (block, cursor) ←
      readBlockLines folds indent (cursor.rest.length + 1) ⟨[], [], trail, false⟩ cursor
    let ending := match chomping with
      | .strip => []
      | .clip => block.lead
      | .keep => block.lead ++ block.trail
    some (block.text ++ ending, cursor)

end Yaml

end Sluice
