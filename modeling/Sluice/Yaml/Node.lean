import Sluice.Yaml.Token

/-!
# Nodes

A document as a tree of nodes.  An anchored node gets a number, and an alias stands for the node of
a number; numbers are given by how many names are in use, so that a name used again may share its
number with a later one, which then stands for the node that began last.
-/

set_option autoImplicit false

namespace Sluice

namespace Yaml

inductive Node where
  | scalar (tag : Option String) (text : String) (plain : Bool)
  | sequence (tag : Option String) (items : List Node)
  | mapping (tag : Option String) (members : List (Node × Node))
  | alias (number : Nat)

def Node.missing : Node := .scalar none "" true

/-- A node under a number, and how many anchored nodes began before it. -/
structure Anchored where
  number : Nat
  order : Nat
  node : Node

structure Reading where
  tokens : List Token
  tags : List (String × String)
  names : List (String × Nat)
  anchored : List Anchored
  begun : Nat
  /-- How many scalars, aliases and ends of collections were met. -/
  events : Nat

abbrev Read := StateT Reading Option

namespace Read

def peek : Read Token := do return (← get).tokens.headD .finish

def advance : Read Unit := modify fun reading => { reading with tokens := reading.tokens.drop 1 }

def countEvents (n : Nat) : Read Unit :=
  modify fun reading => { reading with events := reading.events + n }

def expect (token : Token) : Read Unit := do
  if (← peek) = token then advance else failure

def missing : Read Node := do
  countEvents 1
  return .missing

/-! ## Properties -/

def beginAnchor (name : String) : Read (Nat × Nat) := do
  let reading ← get
  let number := reading.names.length
  let others := reading.names.filter fun pair => pair.1 ≠ name
  set { reading with names := (name, number) :: others, begun := reading.begun + 1 }
  return (number, reading.begun)

def endAnchor (anchor : Option (Nat × Nat)) (node : Node) : Read Node := do
  match anchor with
  | some (number, order) =>
    modify fun reading => { reading with anchored := ⟨number, order, node⟩ :: reading.anchored }
  | none => pure ()
  return node

def resolveTag (handle suffix : String) : Read String := do
  if handle.isEmpty then return suffix
  match (← get).tags.lookup handle with
  | some start => return start ++ suffix
  | none => failure

/-- The properties in front of a node: an anchor and a tag, in either order. -/
structure Properties where
  anchor : Option String
  tag : Option (String × String)

def readProperties : Read Properties := do
  match ← peek with
  | .anchor name =>
    advance
    match ← peek with
    | .tag handle suffix =>
      advance
      return ⟨some name, some (handle, suffix)⟩
    | _ => return ⟨some name, none⟩
  | .tag handle suffix =>
    advance
    match ← peek with
    | .anchor name =>
      advance
      return ⟨some name, some (handle, suffix)⟩
    | _ => return ⟨none, some (handle, suffix)⟩
  | _ => return ⟨none, none⟩

/-! ## Nodes -/

def endsBlockValue : Token → Bool
  | .key => true
  | .value => true
  | .blockEnd => true
  | _ => false

/-- A lone exclamation mark is no tag of a scalar. -/
def scalarTag (tag : Option String) : Option String := if tag = some "!" then none else tag

mutual

/-- A node.  Block collections, and sequences that are not indented, are nodes at some places
only. -/
def readNode : Nat → Bool → Bool → Read Node
  | 0, _, _ => failure
  | fuel + 1, block, unindented => do
    match ← peek with
    | .alias name =>
      advance
      countEvents 1
      match (← get).names.lookup name with
      | some number => return .alias number
      | none => failure
    | _ =>
      let properties ← readProperties
      let tag ← properties.tag.mapM fun tag => resolveTag tag.1 tag.2
      let bare := properties.anchor.isNone && properties.tag.isNone
      let token ← peek
      let begin : Read (Option (Nat × Nat)) := properties.anchor.mapM beginAnchor
      match token with
      | .scalar text plain =>
        advance
        countEvents 1
        endAnchor (← begin) (.scalar (scalarTag tag) text plain)
      | .flowSequenceStart =>
        let anchor ← begin
        advance
        countEvents 2
        endAnchor anchor (.sequence tag (← readFlowItems fuel true))
      | .flowMappingStart =>
        let anchor ← begin
        advance
        countEvents 2
        endAnchor anchor (.mapping tag (← readFlowMembers fuel true))
      | token =>
        if unindented && token = .blockEntry then
          let anchor ← begin
          countEvents 2
          endAnchor anchor (.sequence tag (← readEntries fuel true))
        else if block && token = .blockSequenceStart then
          let anchor ← begin
          advance
          countEvents 2
          let items ← readEntries fuel false
          expect .blockEnd
          endAnchor anchor (.sequence tag items)
        else if block && token = .blockMappingStart then
          let anchor ← begin
          advance
          countEvents 2
          let members ← readMembers fuel
          expect .blockEnd
          endAnchor anchor (.mapping tag members)
        else if bare then failure
        else
          countEvents 1
          endAnchor (← begin) (.scalar (scalarTag tag) "" true)

def readEntries : Nat → Bool → Read (List Node)
  | 0, _ => failure
  | fuel + 1, unindented => do
    if (← peek) = .blockEntry then
      advance
      let next ← peek
      let empty := next = .blockEntry || next = .blockEnd
        || (unindented && (next = .key || next = .value))
      let item ← if empty then missing else readNode fuel true false
      return item :: (← readEntries fuel unindented)
    else return []

def readMembers : Nat → Read (List (Node × Node))
  | 0 => failure
  | fuel + 1 => do
    if (← peek) = .key then
      advance
      let key ← if endsBlockValue (← peek) then missing else readNode fuel true true
      let value ← readBlockValue fuel
      return (key, value) :: (← readMembers fuel)
    else return []

def readBlockValue : Nat → Read Node
  | 0 => failure
  | fuel + 1 => do
    if (← peek) = .value then
      advance
      if endsBlockValue (← peek) then missing else readNode fuel true true
    else missing

/-- The items of a flow sequence; an item with a key is a mapping of one member. -/
def readFlowItems : Nat → Bool → Read (List Node)
  | 0, _ => failure
  | fuel + 1, first => do
    if (← peek) = .flowSequenceEnd then
      advance
      return []
    else
      if !first then expect .flowEntry
      let token ← peek
      if token = .flowSequenceEnd then
        advance
        return []
      else if token = .key then
        advance
        countEvents 2
        let next ← peek
        let key ←
          if next = .value || next = .flowEntry || next = .flowSequenceEnd then
            advance
            missing
          else readNode fuel false false
        let value ← readFlowValue fuel .flowSequenceEnd
        return .mapping none [(key, value)] :: (← readFlowItems fuel false)
      else
        let item ← readNode fuel false false
        return item :: (← readFlowItems fuel false)

/-- The value behind a key of a flow collection that a token closes. -/
def readFlowValue : Nat → Token → Read Node
  | 0, _ => failure
  | fuel + 1, close => do
    if (← peek) = .value then
      advance
      let next ← peek
      if next = .flowEntry || next = close then missing else readNode fuel false false
    else missing

/-- The members of a flow mapping; one without a key mark has no value. -/
def readFlowMembers : Nat → Bool → Read (List (Node × Node))
  | 0, _ => failure
  | fuel + 1, first => do
    if (← peek) = .flowMappingEnd then
      advance
      return []
    else
      if !first then expect .flowEntry
      let token ← peek
      if token = .flowMappingEnd then
        advance
        return []
      else if token = .key then
        advance
        let next ← peek
        let key ←
          if next = .value || next = .flowEntry || next = .flowMappingEnd then missing
          else readNode fuel false false
        let value ← readFlowValue fuel .flowMappingEnd
        return (key, value) :: (← readFlowMembers fuel false)
      else
        let key ← readNode fuel false false
        let value ← missing
        return (key, value) :: (← readFlowMembers fuel false)

end

/-! ## Documents -/

def standardTags : List (String × String) := [("!", "!"), ("!!", "tag:yaml.org,2002:")]

/-- Reads directives: at most one version, which must be known, and handles that differ. -/
def readDirectives : Nat → Bool → List (String × String) → Read (List (String × String))
  | 0, _, tags => return tags
  | fuel + 1, versioned, tags => do
    match ← peek with
    | .version major minor =>
      if versioned || major ≠ 1 || (minor ≠ 1 && minor ≠ 2) then failure
      else
        advance
        readDirectives fuel true tags
    | .tagHandle handle start =>
      if (tags.lookup handle).isSome then failure
      else
        advance
        readDirectives fuel versioned (tags ++ [(handle, start)])
    | _ => return tags

def endsDocument : Token → Bool
  | .version .. => true
  | .tagHandle .. => true
  | .documentStart => true
  | .documentEnd => true
  | .finish => true
  | _ => false

def readEnd : Nat → Read Unit
  | 0 => failure
  | fuel + 1 => do
    match ← peek with
    | .documentEnd =>
      advance
      readEnd fuel
    | .finish => return ()
    | _ => failure

/-- The root of the only document; none if there is no document at all. -/
def readDocument : Read (Option Node) := do
  let fuel := 8 * (← get).tokens.length + 8
  match ← peek with
  | .finish => return none
  | .version .. => explicit fuel
  | .tagHandle .. => explicit fuel
  | .documentStart => explicit fuel
  | _ =>
    let root ← readNode fuel true false
    readEnd fuel
    return some root
where
  explicit (fuel : Nat) : Read (Option Node) := do
    let tags ← readDirectives fuel false []
    let standard := standardTags.filter fun tag => (tags.lookup tag.1).isNone
    modify fun reading => { reading with tags := tags ++ standard }
    expect .documentStart
    let root ← if endsDocument (← peek) then missing else readNode fuel true false
    readEnd fuel
    return some root

end Read

/-- A document: its root, what the numbers of aliases stand for, and how many events made it. -/
structure Document where
  root : Option Node
  anchored : List Anchored
  events : Nat

namespace Document

def ofText? (text : List Char) : Option Document := do
  let tokens ← tokens? text
  let (root, reading) ← Read.readDocument.run ⟨tokens, Read.standardTags, [], [], 0, 0⟩
  some ⟨root, reading.anchored, reading.events⟩

def target? (document : Document) (number : Nat) : Option Node :=
  (document.anchored.foldl (fun latest anchored =>
    if anchored.number ≠ number then latest
    else
      match latest with
      | some other => if other.order < anchored.order then some anchored else latest
      | none => some anchored) (none : Option Anchored)).map Anchored.node

end Document

end Yaml

end Sluice
