import Sluice.Pattern.Reading

/-!
# Searching for a pattern

A pattern is laid out as numbered steps.  A search keeps the set of steps that can be next, moves
all of them over one character at a time, and starts anew at every place of the text, so its time
is bounded by the product of both sizes whatever the pattern is.
-/

set_option autoImplicit false

namespace Sluice

namespace Pattern

inductive Step where
  /-- Takes a character of the set and goes on with the next step. -/
  | take (set : CharSet)
  /-- Goes on with the next step if the edge is there. -/
  | need (edge : Edge)
  | fork (left right : Nat)
  | goto (target : Nat)

abbrev Steps := Array Step

namespace Steps

/-- Appends what `body` appends, `count` times. -/
def times (body : Steps → Steps) : Nat → Steps → Steps
  | 0, steps => steps
  | count + 1, steps => times body count (body steps)

def optional (body : Steps → Steps) (steps : Steps) : Steps :=
  let start := steps.size
  let longer := body (steps.push (.fork (start + 1) 0))
  longer.setIfInBounds start (.fork (start + 1) longer.size)

def star (body : Steps → Steps) (steps : Steps) : Steps :=
  let start := steps.size
  let longer := (body (steps.push (.fork (start + 1) 0))).push (.goto start)
  longer.setIfInBounds start (.fork (start + 1) longer.size)

def either (left right : Steps → Steps) (steps : Steps) : Steps :=
  let start := steps.size
  let first := (left (steps.push (.fork (start + 1) 0))).push (.goto 0)
  let middle := first.size
  let both := right first
  (both.setIfInBounds start (.fork (start + 1) middle)).setIfInBounds (middle - 1) (.goto both.size)

end Steps

mutual

def Tree.lay : Tree → Steps → Steps
  | .empty, steps => steps
  | .options, steps => steps
  | .chars s, steps => steps.push (.take s)
  | .edge e, steps => steps.push (.need e)
  | .sequence items, steps => Tree.layAll items steps
  | .choice branches, steps => Tree.layAny branches steps
  | .repeated body least most, steps =>
    let steps := Steps.times body.lay least steps
    match most with
    | none => Steps.star body.lay steps
    | some most => Steps.times (Steps.optional body.lay) (most - least) steps
  | .group body, steps => body.lay steps

def Tree.layAll : List Tree → Steps → Steps
  | [], steps => steps
  | tree :: rest, steps => Tree.layAll rest (tree.lay steps)

def Tree.layAny : List Tree → Steps → Steps
  | [], steps => steps
  | tree :: rest, steps =>
    if rest.isEmpty then tree.lay steps else Steps.either tree.lay (Tree.layAny rest) steps

end

structure Searcher where
  steps : Steps
  deriving Inhabited

/-- Follows the steps that take no character, from those on the stack.  Yields the steps that take a
character, each with the step after it, and whether the end was reached. -/
def Searcher.follow (s : Searcher) (before after : Option Char) :
    Nat → List Nat → Array Bool → List (CharSet × Nat) → List (CharSet × Nat) × Bool
  | 0, _, _, takers => (takers, false)
  | _ + 1, [], _, takers => (takers, false)
  | fuel + 1, n :: stack, seen, takers =>
    if seen.getD n true then
      -- A step past the last one is the end of the pattern.
      if s.steps.size ≤ n then (takers, true) else s.follow before after fuel stack seen takers
    else
      let seen := seen.setIfInBounds n true
      match s.steps[n]? with
      | none => (takers, true)
      | some (.take set) => s.follow before after fuel stack seen ((set, n + 1) :: takers)
      | some (.need edge) =>
        s.follow before after fuel
          (if edge.holds before after then (n + 1) :: stack else stack) seen takers
      | some (.fork a b) => s.follow before after fuel (a :: b :: stack) seen takers
      | some (.goto a) => s.follow before after fuel (a :: stack) seen takers

/-- Searches a text from a place on; `next` are the steps that can follow there. -/
def Searcher.searchFrom (s : Searcher) : Option Char → List Char → List Nat → Bool
  | before, [], next =>
    (s.follow before none (next.length + 2 * s.steps.size + 2) (next ++ [0])
      (Array.replicate s.steps.size false) []).2
  | before, c :: rest, next =>
    let (takers, found) :=
      s.follow before (some c) (next.length + 2 * s.steps.size + 2) (next ++ [0])
        (Array.replicate s.steps.size false) []
    found ||
      s.searchFrom (some c) rest
        (takers.filterMap fun (set, after) => if set.contains c.toNat then some after else none)

def Searcher.occursIn (s : Searcher) (text : String) : Bool := s.searchFrom none text.toList []

/-- The searcher of a pattern text; nothing for a malformed one. -/
def compile? (pattern : String) : Option Searcher :=
  (read? pattern).map fun tree => ⟨tree.lay #[]⟩

end Pattern

end Sluice
