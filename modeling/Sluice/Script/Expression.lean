import Sluice.Script.Operation

/-!
# Expressions

The tree of an expression.  A chain is a root with the properties, methods and indexes that are
applied to it in turn.
-/

set_option autoImplicit false

namespace Sluice

namespace Script

mutual

inductive Expr where
  | constant (value : Datum)
  | reference (name : String)
  /-- A text made of the texts of its parts. -/
  | template (parts : List Expr)
  | list (items : List Expr)
  | map (entries : List (String × Expr))
  | call (name : String) (arguments : List Expr)
  | unary (operator : UnaryOperator) (operand : Expr)
  | binary (operator : BinaryOperator) (left right : Expr)
  /-- Whether the item is in the container. -/
  | within (item container : Expr)
  | both (left right : Expr)
  | either (left right : Expr)
  | coalesce (left right : Expr)
  | conditional (guard yes no : Expr)
  /-- The first branch that the subject matches, or else the last value. -/
  | choice (subject : Expr) (branches : List Branch) (otherwise : Expr)
  | chain (root : Expr) (links : List Link)

inductive Link where
  | property (name : String) (safe : Bool)
  | method (name : String) (arguments : List Expr) (safe : Bool)
  | index (index : Expr) (safe : Bool)

/-- A value for the subjects that match one of the patterns while the guard holds.  A range as a
pattern stands for the numbers in it. -/
inductive Branch where
  | case (patterns : List Datum) (guard value : Expr)

end

def Branch.patterns : Branch → List Datum
  | .case patterns _ _ => patterns

instance : Inhabited Expr := ⟨.constant .unit⟩

namespace Expr

def isReference : Expr → Bool
  | reference _ => true
  | _ => false

/-- An expression that is seen not to be a truth value. -/
def isNoTruth : Expr → Bool
  | constant (.bool _) => false
  | constant _ => true
  | template _ => true
  | list _ => true
  | map _ => true
  | _ => false

/-- An expression that no list, map, text or integer index can be. -/
def isNoIndex : Expr → Bool
  | constant (.int _) => false
  | constant (.text _) => false
  | constant _ => true
  | both _ _ => true
  | either _ _ => true
  | _ => false

/-- An index that is seen not to fit its target. -/
def misfits (target index : Expr) : Bool :=
  let isText : Expr → Bool
    | constant (.text _) => true
    | template _ => true
    | _ => false
  let isNumber : Expr → Bool
    | constant (.int _) => true
    | _ => false
  let known := isText index || isNumber index
  isNoIndex index ||
    match target with
    | list _ => isText index
    | map _ => isNumber index
    | template _ => isText index
    | constant (.text _) => isText index
    | constant (.int _) => false
    | constant _ => known
    | both _ _ => known
    | either _ _ => known
    | _ => false

/-- A chain of no links is its root. -/
def ofChain (root : Expr) (links : List Link) : Expr :=
  if links.isEmpty then root else chain root links

end Expr

end Script

end Sluice
