import Sluice.Pattern.CharSet

/-!
# Pattern trees

What a search pattern is made of.  An `Edge` looks at the characters on both sides of a place and
takes none.

The weight of a tree only approximates the size that a compiled pattern has.  The limit on that size
is ten mebibytes, and `weightMax` stands for it: both refuse a pattern that is far too large and
take one that is far from it, but in between they differ.  `\w{400}` is taken here, and its compiled
form would be refused.
-/

set_option autoImplicit false

namespace Sluice

namespace Pattern

/-- Which characters count as word characters. -/
inductive WordKind where
  | unicode
  | ascii
  deriving DecidableEq

inductive Edge where
  | textStart
  | textEnd
  | lineStart
  | lineEnd
  /-- Lines that end in a carriage return, a line feed or both. -/
  | anyLineStart
  | anyLineEnd
  | wordEdge (kind : WordKind)
  | noWordEdge (kind : WordKind)
  | wordStart (kind : WordKind)
  | wordEnd (kind : WordKind)
  | noWordBefore (kind : WordKind)
  | noWordAfter (kind : WordKind)
  deriving DecidableEq

def WordKind.isWord : WordKind → Option Char → Bool
  | _, none => false
  | unicode, some c => isWordChar c
  | ascii, some c => isAsciiWord c

/-- The edge is between the two characters; at an end of the text there is none. -/
def Edge.holds (before after : Option Char) : Edge → Bool
  | textStart => before.isNone
  | textEnd => after.isNone
  | lineStart => before.isNone || before = some '\n'
  | lineEnd => after.isNone || after = some '\n'
  | anyLineStart =>
    before.isNone || before = some '\n' || (before = some '\r' && after != some '\n')
  | anyLineEnd =>
    after.isNone || after = some '\r' || (after = some '\n' && before != some '\r')
  | wordEdge k => k.isWord before != k.isWord after
  | noWordEdge k => k.isWord before == k.isWord after
  | wordStart k => !k.isWord before && k.isWord after
  | wordEnd k => k.isWord before && !k.isWord after
  | noWordBefore k => !k.isWord before
  | noWordAfter k => !k.isWord after

inductive Tree where
  | empty
  /-- A change of options, which takes no character. -/
  | options
  | chars (set : CharSet)
  | edge (edge : Edge)
  | sequence (items : List Tree)
  | choice (branches : List Tree)
  | repeated (body : Tree) (least : Nat) (most : Option Nat)
  | group (body : Tree)
  deriving Inhabited

namespace Tree

def ofItems : List Tree → Tree
  | [] => empty
  | [item] => item
  | items => sequence items

def ofBranches : List Tree → Tree
  | [branch] => branch
  | branches => choice branches

mutual

def depth : Tree → Nat
  | sequence items => depthOfAll items + 1
  | choice branches => depthOfAll branches + 1
  | repeated body _ _ => body.depth + 1
  | group body => body.depth + 1
  | _ => 0

def depthOfAll : List Tree → Nat
  | [] => 0
  | tree :: rest => max tree.depth (depthOfAll rest)

end

mutual

/-- About how large a pattern is, its repetitions written out. -/
def weight : Tree → Nat
  | chars set => set.weight
  | sequence items => weightOfAll items
  | choice branches => weightOfAll branches + 1
  | repeated body least most =>
    let copies := match most with
      | some most => most
      | none => least + 1
    (body.weight + 1) * copies + 1
  | group body => body.weight + 2
  | _ => 1

def weightOfAll : List Tree → Nat
  | [] => 0
  | tree :: rest => tree.weight + weightOfAll rest

end

end Tree

end Pattern

end Sluice
