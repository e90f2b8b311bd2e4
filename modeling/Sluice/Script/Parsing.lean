import Sluice.Script.Expression
import Sluice.Script.Source
import Sluice.Script.Token

/-!
# Parsing expressions

Tokens become a tree.  Of two operators the tighter one takes the operand between them; of two
equally tight ones the left one, except for powers.  A source is one expression and nothing after
it, and expressions nest only so deep.
-/

set_option autoImplicit false

namespace Sluice

namespace Script

def BinaryOperator.tightness : BinaryOperator → Nat
  | bitOr => 30
  | bitXor => 30
  | bitAnd => 60
  | eq => 90
  | ne => 90
  | lt => 130
  | le => 130
  | gt => 130
  | ge => 130
  | range => 140
  | closedRange => 140
  | add => 150
  | sub => 150
  | mul => 180
  | div => 180
  | rem => 180
  | pow => 190
  | shiftLeft => 210
  | shiftRight => 210

/-- How tightly a token binds as an operator; zero if it is none. -/
def Token.tightness : Token → Nat
  | .operator op => op.tightness
  | .orElse => 30
  | .andAlso => 60
  | .word w => if w = "in" then 110 else 0
  | .notIn => 110
  | .coalesce => 135
  | _ => 0

/-- Of equal operators the right one is applied first. -/
def Token.bindsRight : Token → Bool
  | .operator .pow => true
  | _ => false

def tightnessOf (tokens : List Token) : Nat := (tokens.head?.map Token.tightness).getD 0

/-- Both operands of a logical operator may be truth values. -/
def logical? (make : Expr → Expr → Expr) (left right : Expr) : Option Expr :=
  if left.isNoTruth || right.isNoTruth then none else some (make left right)

def operation? (token : Token) (left right : Expr) : Option Expr :=
  match token with
  | .operator op => some (.binary op left right)
  | .andAlso => logical? .both left right
  | .orElse => logical? .either left right
  | .coalesce => some (.coalesce left right)
  | .word _ => some (.within left right)
  | .notIn => some (.unary .not (.within left right))
  | _ => none

/-- The tree of a sign or negation; the sign of a number belongs to the number. -/
def signed (op : UnaryOperator) (operand : Expr) : Expr :=
  match op, operand with
  | .negate, .constant (.int n) =>
    match int64? (-n.toInt) with
    | some n => .constant (.int n)
    | none => .constant (.float (Binary64.ofInt n.toInt).neg)
  | .negate, .constant (.float x) => .constant (.float x.neg)
  | .plus, .constant (.int n) => .constant (.int n)
  | .plus, .constant (.float x) => .constant (.float x)
  | op, operand => .unary op operand

/-- Functions of the language itself, which are no variables. -/
def languageFunctions : List String :=
  ["type_of", "eval", "is_def_var", "is_def_fn", "is_shared", "print", "debug", "Fn", "call",
    "curry"]

def callOnlyFunctions : List String := ["eval", "Fn"]

def Token.unary? : Token → Option UnaryOperator
  | .operator .sub => some .negate
  | .operator .add => some .plus
  | .not => some .not
  | _ => none

def after? (mark : Punctuation) : List Token → Option (List Token)
  | .mark m :: rest => if m = mark then some rest else none
  | _ => none

mutual

def Expr.literal? : Expr → Option Datum
  | .constant value => some value
  | .list items => (literals? items).map Datum.list
  | .map entries => (literalEntries? entries).map Datum.ofEntries
  | .binary .range (.constant (.int first)) (.constant (.int last)) =>
    some (.range first last false)
  | .binary .closedRange (.constant (.int first)) (.constant (.int last)) =>
    some (.range first last true)
  | _ => none

def literals? : List Expr → Option (List Datum)
  | [] => some []
  | e :: rest => do some ((← e.literal?) :: (← literals? rest))

def literalEntries? : List (String × Expr) → Option (List (String × Datum))
  | [] => some []
  | (key, e) :: rest => do some ((key, ← e.literal?) :: (← literalEntries? rest))

end

/-- The longest range that is taken as the list of its integers. -/
def shortRange : Int := 16

/-- The patterns of a branch.  An empty range is none, and a short one without a guard stands for
its integers; after a range that stands for itself no number may follow.  `spanned` says that such a
range came before. -/
def branchPatterns? (guarded spanned : Bool) : List Datum → Option (List Datum × Bool)
  | [] => some ([], spanned)
  | .range first last closed :: rest =>
    let length := last.toInt - first.toInt + (if closed then 1 else 0)
    if length ≤ 0 then branchPatterns? guarded spanned rest
    else if !guarded && !spanned && length ≤ shortRange then
      (branchPatterns? guarded spanned rest).map fun (patterns, spanned) =>
        ((List.range length.toNat).map (fun n => Datum.int (first + Int64.ofNat n)) ++ patterns,
          spanned)
    else
      (branchPatterns? guarded true rest).map fun (patterns, spanned) =>
        (.range first last closed :: patterns, spanned)
  | pattern :: rest =>
    let isNumber := match pattern with
      | .int _ => true
      | .float _ => true
      | _ => false
    if spanned && isNumber then none
    else
      (branchPatterns? guarded spanned rest).map fun (patterns, spanned) =>
        (pattern :: patterns, spanned)

/-- The mark between two branches, or none before the end of the last one. -/
def afterBranch? : List Token → Option (List Token)
  | .mark .comma :: rest => some rest
  | .mark .closeBrace :: rest => some (.mark .closeBrace :: rest)
  | _ => none

mutual

/-- An expression; `depth` is how deep it may nest. -/
def parseExpr : Nat → Nat → List Token → Option (Expr × List Token)
  | 0, _, _ => none
  | fuel + 1, depth, tokens =>
    match depth with
    | 0 => none
    | depth + 1 => do
      let (left, rest) ← parseUnary fuel depth tokens
      parseBinary fuel depth 1 left rest

/-- Operators that bind more tightly than `bound`, after the left operand. -/
def parseBinary : Nat → Nat → Nat → Expr → List Token → Option (Expr × List Token)
  | 0, _, _, _, _ => none
  | _ + 1, _, _, left, [] => some (left, [])
  | fuel + 1, depth, bound, left, token :: rest =>
    let tightness := token.tightness
    if tightness < bound || (tightness = bound && !token.bindsRight) then some (left, token :: rest)
    else
      match depth with
      | 0 => none
      | depth + 1 => do
        let (right, rest) ← parseUnary fuel depth rest
        let next := tightnessOf rest
        let (right, rest) ←
          if tightness < next || (tightness = next && token.bindsRight) then
            parseBinary fuel depth tightness right rest
          else some (right, rest)
        parseBinary fuel depth bound (← operation? token left right) rest

def parseUnary : Nat → Nat → List Token → Option (Expr × List Token)
  | 0, _, _ => none
  | _ + 1, _, [] => none
  | fuel + 1, depth, token :: rest =>
    match token.unary? with
    | none => parseChain fuel depth (token :: rest)
    | some op =>
      match depth with
      | 0 => none
      | depth + 1 => do
        let (operand, rest) ← parseUnary fuel depth rest
        some (signed op operand, rest)

/-- An operand with the properties, methods and indexes after it. -/
def parseChain : Nat → Nat → List Token → Option (Expr × List Token)
  | 0, _, _ => none
  | fuel + 1, depth, tokens => do
    let (root, rest) ← parseRoot fuel depth tokens
    parseLinks fuel depth root [] rest

/-- A constant, a variable, a call, or an expression with marks around it. -/
def parseRoot : Nat → Nat → List Token → Option (Expr × List Token)
  | 0, _, _ => none
  | _ + 1, _, [] => none
  | fuel + 1, depth, token :: rest =>
    match token with
    | .int n => some (.constant (.int n), rest)
    | .float x => some (.constant (.float x), rest)
    | .text s => some (.constant (.text s), rest)
    | .char c => some (.constant (.char c), rest)
    | .template parts => (parseParts fuel depth parts).map fun parts => (.template parts, rest)
    | .word w =>
      if w = "true" then some (.constant (.bool true), rest)
      else if w = "false" then some (.constant (.bool false), rest)
      else if w = "if" then parseConditional fuel depth rest
      else if w = "switch" then do
        let (subject, rest) ← parseExpr fuel depth rest
        let (branches, otherwise, rest) ←
          parseBranches fuel depth false (← after? .openBrace rest)
        some (.choice subject branches otherwise, rest)
      else none
    | .name name =>
      match after? .openParen rest with
      | some rest =>
        (parseItems fuel depth .closeParen rest).map fun (items, rest) => (.call name items, rest)
      | none => if languageFunctions.contains name then none else some (.reference name, rest)
    | .mark .openParen =>
      match after? .closeParen rest with
      | some rest => some (.constant .unit, rest)
      | none => do
        let (inner, rest) ← parseExpr fuel depth rest
        some (inner, ← after? .closeParen rest)
    | .mark .openBracket =>
      (parseItems fuel depth .closeBracket rest).map fun (items, rest) => (.list items, rest)
    | .mark .openMap => do
      let (entries, rest) ← parseEntries fuel depth rest
      if (entries.map Prod.fst).Nodup then some (.map entries, rest) else none
    | _ => none

/-- The properties, methods and indexes after a root; `links` has the last one first. -/
def parseLinks : Nat → Nat → Expr → List Link → List Token → Option (Expr × List Token)
  | 0, _, _, _, _ => none
  | _ + 1, _, root, links, [] => some (.ofChain root links.reverse, [])
  | fuel + 1, depth, root, links, token :: rest =>
    let dotted (safe : Bool) : Option (Expr × List Token) :=
      match depth, rest with
      | depth + 1, .name name :: rest =>
        match after? .openParen rest with
        | some rest => do
          let (items, rest) ← parseItems fuel depth .closeParen rest
          if items.isEmpty && callOnlyFunctions.contains name then none
          else parseLinks fuel depth root (.method name items safe :: links) rest
        | none =>
          if languageFunctions.contains name then none
          else parseLinks fuel depth root (.property name safe :: links) rest
      | _, _ => none
    let indexed (safe : Bool) : Option (Expr × List Token) :=
      match depth with
      | 0 => none
      | depth + 1 => do
        let (index, rest) ← parseExpr fuel depth rest
        let rest ← after? .closeBracket rest
        if links.isEmpty && Expr.misfits root index || index.isNoIndex then none
        else parseLinks fuel depth root (.index index safe :: links) rest
    match token with
    | .mark .dot => dotted false
    | .mark .safeDot => dotted true
    | .mark .openBracket => indexed false
    | .mark .safeBracket => indexed true
    | _ => some (.ofChain root links.reverse, token :: rest)

/-- Expressions with commas between them, up to the closing mark. -/
def parseItems : Nat → Nat → Punctuation → List Token → Option (List Expr × List Token)
  | 0, _, _, _ => none
  | fuel + 1, depth, close, tokens =>
    match after? close tokens with
    | some rest => some ([], rest)
    | none => do
      let (item, rest) ← parseExpr fuel depth tokens
      match after? .comma rest with
      | some rest => do
        let (items, rest) ← parseItems fuel depth close rest
        some (item :: items, rest)
      | none => some ([item], ← after? close rest)

/-- Entries of a map, up to its closing brace. -/
def parseEntries : Nat → Nat → List Token → Option (List (String × Expr) × List Token)
  | 0, _, _ => none
  | fuel + 1, depth, tokens =>
    let entry (key : String) (rest : List Token) : Option (List (String × Expr) × List Token) := do
      let (value, rest) ← parseExpr fuel depth (← after? .colon rest)
      match after? .comma rest with
      | some rest => do
        let (entries, rest) ← parseEntries fuel depth rest
        some ((key, value) :: entries, rest)
      | none => some ([(key, value)], ← after? .closeBrace rest)
    match tokens with
    | .mark .closeBrace :: rest => some ([], rest)
    | .name key :: rest => entry key rest
    | .text key :: rest => entry key rest
    | _ => none

def parseBlock : Nat → Nat → List Token → Option (Expr × List Token)
  | 0, _, _ => none
  | fuel + 1, depth, tokens => do
    let (inner, rest) ← parseExpr fuel depth (← after? .openBrace tokens)
    some (inner, ← after? .closeBrace rest)

/-- What follows `if`; without `else` the other value is the unit. -/
def parseConditional : Nat → Nat → List Token → Option (Expr × List Token)
  | 0, _, _ => none
  | fuel + 1, depth, tokens => do
    let (guard, rest) ← parseExpr fuel depth tokens
    let (yes, rest) ← parseBlock fuel depth rest
    if guard.isNoTruth then none
    else
      match rest with
      | .word "else" :: .word "if" :: rest => do
        let (no, rest) ← parseConditional fuel depth rest
        some (.conditional guard yes no, rest)
      | .word "else" :: rest => do
        let (no, rest) ← parseBlock fuel depth rest
        some (.conditional guard yes no, rest)
      | rest => some (.conditional guard yes (.constant .unit), rest)

/-- Branches up to the closing brace, and the value without a match: that of a last branch `_`, or
the unit. -/
def parseBranches :
    Nat → Nat → Bool → List Token → Option (List Branch × Expr × List Token)
  | 0, _, _, _ => none
  | fuel + 1, depth, spanned, tokens =>
    match tokens with
    | .mark .closeBrace :: rest => some ([], .constant .unit, rest)
    | .word "_" :: rest => do
      let (value, rest) ← parseExpr fuel depth (← after? .arrow rest)
      some ([], value, ← after? .closeBrace (← afterBranch? rest))
    | tokens => do
      let (patterns, rest) ← parsePatterns fuel depth tokens
      let (guard, rest) ← match rest with
        | .word "if" :: rest => parseExpr fuel depth rest
        | rest => some (.constant (.bool true), rest)
      let (value, rest) ← parseExpr fuel depth (← after? .arrow rest)
      let guarded := match guard with
        | .constant (.bool true) => false
        | _ => true
      let (patterns, spanned) ← branchPatterns? guarded spanned patterns
      let (branches, otherwise, rest) ←
        parseBranches fuel depth spanned (← afterBranch? rest)
      if guard.isNoTruth then none
      else some (.case patterns guard value :: branches, otherwise, rest)

def parsePatterns : Nat → Nat → List Token → Option (List Datum × List Token)
  | 0, _, _ => none
  | fuel + 1, depth, tokens => do
    let (left, rest) ← parseUnary fuel depth tokens
    let (pattern, rest) ← match rest with
      | .operator .range :: rest => do
        let (right, rest) ← parseUnary fuel depth rest
        some (.binary .range left right, rest)
      | .operator .closedRange :: rest => do
        let (right, rest) ← parseUnary fuel depth rest
        some (.binary .closedRange left right, rest)
      | rest => some (left, rest)
    let pattern ← pattern.literal?
    match rest with
    | .operator .bitOr :: rest => do
      let (patterns, rest) ← parsePatterns fuel depth rest
      some (pattern :: patterns, rest)
    | rest => some ([pattern], rest)

def parseParts : Nat → Nat → List TemplatePart → Option (List Expr)
  | 0, _, _ => none
  | _ + 1, _, [] => some []
  | fuel + 1, depth, part :: rest => do
    let part ← match part with
      | .words text => some (.constant (.text text))
      | .code tokens =>
        match parseExpr fuel depth tokens with
        | some (inner, []) => some inner
        | _ => none
    let rest ← parseParts fuel depth rest
    some (part :: rest)

end

def depthMax : Nat := 64

def parse? (source : List Char) : Option Expr :=
  match tokens? source with
  | none => none
  | some tokens =>
    match parseExpr (8 * source.length + 8) depthMax tokens with
    | some (tree, []) => some tree
    | _ => none

end Script

end Sluice
