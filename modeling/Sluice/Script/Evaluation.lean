import Sluice.Script.Expression
import Sluice.Script.Function

/-!
# Evaluating expressions

An expression is evaluated in an environment, from which it reads variables and nothing else.  The
arguments of a call are evaluated from left to right, but a variable that is the first one is read
last; the arguments inside a chain are evaluated before its root.
-/

set_option autoImplicit false

namespace Sluice

namespace Script

/-- What an expression can see: the variables, and how a text is evaluated as an expression. -/
structure Environment where
  find : String → Option Datum
  run : String → Result

namespace Environment

def read (env : Environment) (name : String) : Result :=
  match env.find name with
  | some value => .ok value
  | none => .error .unknownVariable

end Environment

def ofText (f : String → Result) : Datum → Result
  | .text s => f s
  | _ => .error .wrongType

/-- The functions that look at the environment, and all others.  An expression cannot define
functions, so none is ever defined. -/
def invoke (env : Environment) (name : String) (arguments : List Datum) : Result :=
  match name, arguments with
  | "is_def_var", [a] => ofText (fun s => .ok (.bool (env.find s).isSome)) a
  | "eval", [a] => ofText env.run a
  | "is_def_fn", [.text _, .int _] => .ok (.bool false)
  | "is_def_fn", [_, _] => .error .wrongType
  | name, arguments => applyFunction name arguments

def truthOf : Datum → Except ScriptFault Bool
  | .bool b => .ok b
  | _ => .error .wrongType

/-- A variable that is the first operand is read after the second one is evaluated. -/
def ordered (late : Bool) (first second : Unit → Result) : Except ScriptFault (Datum × Datum) :=
  if late then do
    let b ← second ()
    let a ← first ()
    return (a, b)
  else do
    let a ← first ()
    let b ← second ()
    return (a, b)

/-- Applies links to a target; a safe link ends the chain when there is no datum. -/
def follow (target : Datum) : List (Link × List Datum) → Result
  | [] => .ok target
  | (link, values) :: rest =>
    let isUnit := match target with
      | .unit => true
      | _ => false
    match link with
    | .property name safe => do
      if safe && isUnit then return .unit
      follow (← property target name) rest
    | .method name _ safe => do
      if safe && isUnit then return .unit
      follow (← applyFunction name (target :: values)) rest
    | .index _ safe => do
      if safe && isUnit then return .unit
      follow (← item target (values.headD .unit)) rest

/-- A pattern is the datum itself. -/
def Datum.isNamed (value : Datum) (patterns : List Datum) : Bool :=
  patterns.any fun pattern => value.identical pattern

/-- A pattern is a range that the number lies in. -/
def Datum.isSpanned (value : Datum) (patterns : List Datum) : Bool :=
  patterns.any fun pattern =>
    match pattern, value with
    | .range first last closed, .int n =>
      decide (first ≤ n) && (if closed then decide (n ≤ last) else decide (n < last))
    | .range first last closed, .float x =>
      let first := Binary64.ofInt first.toInt
      let last := Binary64.ofInt last.toInt
      !x.isNaN && !x.lt first && (if closed then !last.lt x else x.lt last)
    | _, _ => false

mutual

def Expr.eval (env : Environment) : Expr → Result
  | .constant value => .ok value
  | .reference name => env.read name
  | .template parts => do
    return .text (String.join ((← evalAll env parts).map Datum.spoken))
  | .list items => do return .list (← evalAll env items)
  | .map entries => do return Datum.ofEntries (← evalEntries env entries)
  | .call name [] => invoke env name []
  | .call name (first :: rest) =>
    if first.isReference then do
      let values ← evalAll env rest
      let value ← first.eval env
      invoke env name (value :: values)
    else do
      let value ← first.eval env
      let values ← evalAll env rest
      invoke env name (value :: values)
  | .unary op operand => do op.apply (← operand.eval env)
  | .binary op left right => do
    let (a, b) ← ordered left.isReference (fun _ => left.eval env) (fun _ => right.eval env)
    op.apply a b
  | .within item container => do
    let (c, i) ←
      ordered container.isReference (fun _ => container.eval env) (fun _ => item.eval env)
    isIn i c
  | .both left right => do
    if ← truthOf (← left.eval env) then return .bool (← truthOf (← right.eval env))
    else return .bool false
  | .either left right => do
    if ← truthOf (← left.eval env) then return .bool true
    else return .bool (← truthOf (← right.eval env))
  | .coalesce left right => do
    match ← left.eval env with
    | .unit => right.eval env
    | value => return value
  | .conditional guard yes no => do
    if ← truthOf (← guard.eval env) then yes.eval env else no.eval env
  | .choice subject branches otherwise => do
    let value ← subject.eval env
    let named := branches.any fun branch => value.isNamed branch.patterns
    let found ← evalBranches env (if named then value.isNamed else value.isSpanned) branches
    match found with
    | some value => return value
    | none => otherwise.eval env
  | .chain root links => do
    let values ← evalLinks env links
    follow (← root.eval env) values

def evalAll (env : Environment) : List Expr → Except ScriptFault (List Datum)
  | [] => .ok []
  | e :: rest => do return (← e.eval env) :: (← evalAll env rest)

def evalEntries (env : Environment) :
    List (String × Expr) → Except ScriptFault (List (String × Datum))
  | [] => .ok []
  | (key, e) :: rest => do return (key, ← e.eval env) :: (← evalEntries env rest)

def evalLinks (env : Environment) : List Link → Except ScriptFault (List (Link × List Datum))
  | [] => .ok []
  | link :: rest => do return (link, ← link.evalArguments env) :: (← evalLinks env rest)

def Link.evalArguments (env : Environment) : Link → Except ScriptFault (List Datum)
  | .property _ _ => .ok []
  | .method _ arguments _ => evalAll env arguments
  | .index index _ => do return [← index.eval env]

/-- The value of the first branch whose patterns are chosen and whose guard holds. -/
def evalBranches (env : Environment) (chosen : List Datum → Bool) :
    List Branch → Except ScriptFault (Option Datum)
  | [] => .ok none
  | .case patterns guard value :: rest => do
    if chosen patterns then
      if ← truthOf (← guard.eval env) then return some (← value.eval env)
      else evalBranches env chosen rest
    else evalBranches env chosen rest

end

end Script

end Sluice
