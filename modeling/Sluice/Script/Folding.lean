import Sluice.Script.Expression

/-!
# Folding constants

Operators on constants are applied once, before any evaluation, unless they fault, and logical
operators with a constant operand are simplified.  An operand that is left alone is no longer asked
to be a truth value.
-/

set_option autoImplicit false

namespace Sluice

namespace Script

def foldsTogether (op : BinaryOperator) (a b : Datum) : Bool :=
  match a, b with
  | .int _, .int _ => op != .div && op != .rem
  | .text _, .int _ => false
  | .int _, .text _ => false
  | .text _, .float _ => false
  | .float _, .text _ => false
  | .list _, _ => false
  | _, .list _ => false
  | .map _, _ => false
  | _, .map _ => false
  | .unit, .text _ => isComparison op
  | .text _, .unit => isComparison op
  | .bool _, .text _ => isComparison op
  | .text _, .bool _ => isComparison op
  | _, _ => true

def foldBinary (op : BinaryOperator) (left right : Expr) : Expr :=
  match left, right with
  | .constant a, .constant b =>
    if foldsTogether op a b then
      match op.apply a b with
      | .ok value => .constant value
      | .error _ => .binary op left right
    else .binary op left right
  | _, _ => .binary op left right

def foldBoth (left right : Expr) : Expr :=
  match left, right with
  | .constant (.bool true), right => right
  | .constant (.bool false), _ => .constant (.bool false)
  | left, .constant (.bool true) => left
  | left, right => .both left right

def foldEither (left right : Expr) : Expr :=
  match left, right with
  | .constant (.bool false), right => right
  | .constant (.bool true), _ => .constant (.bool true)
  | left, .constant (.bool false) => left
  | left, right => .either left right

def foldCoalesce (left right : Expr) : Expr :=
  match left with
  | .constant .unit => right
  | .constant value => .constant value
  | left => .coalesce left right

def foldConditional (guard yes no : Expr) : Expr :=
  match guard with
  | .constant (.bool true) => yes
  | .constant (.bool false) => no
  | guard => .conditional guard yes no

mutual

def Expr.fold : Expr → Expr
  | .constant value => .constant value
  | .reference name => .reference name
  | .template parts => .template (foldAll parts)
  | .list items => .list (foldAll items)
  | .map entries => .map (foldEntries entries)
  | .call name arguments => .call name (foldAll arguments)
  | .unary op operand => .unary op operand.fold
  | .binary op left right => foldBinary op left.fold right.fold
  | .within item container => .within item.fold container.fold
  | .both left right => foldBoth left.fold right.fold
  | .either left right => foldEither left.fold right.fold
  | .coalesce left right => foldCoalesce left.fold right.fold
  | .conditional guard yes no => foldConditional guard.fold yes.fold no.fold
  | .choice subject branches otherwise =>
    .choice subject.fold (foldBranches branches) otherwise.fold
  | .chain root links => .chain root.fold (foldLinks links)

def foldAll : List Expr → List Expr
  | [] => []
  | e :: rest => e.fold :: foldAll rest

def foldEntries : List (String × Expr) → List (String × Expr)
  | [] => []
  | (key, e) :: rest => (key, e.fold) :: foldEntries rest

def foldLinks : List Link → List Link
  | [] => []
  | link :: rest => link.fold :: foldLinks rest

def Link.fold : Link → Link
  | .property name safe => .property name safe
  | .method name arguments safe => .method name (foldAll arguments) safe
  | .index index safe => .index index.fold safe

def foldBranches : List Branch → List Branch
  | [] => []
  | .case patterns guard value :: rest =>
    .case patterns guard.fold value.fold :: foldBranches rest

end

end Script

end Sluice
