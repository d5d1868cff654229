import RoutingPlane.Yaml.Node
import RoutingPlane.Yaml.Plain
import RoutingPlane.Yaml.Token

/-!
Reading the nodes of a document from its tokens by descent: each kind of
collection has a reader for its entries, and what is missing between two marks
is an empty node. An alias is the number of the node with its name, which may
still be open.
-/

namespace RoutingPlane.Yaml

structure NodeState where
  /-- The tokens that follow. -/
  tokens : List Token
  nodes : Nodes := #[]
  /-- The numbers of the nodes with names. -/
  anchors : List (String × Nat) := []

abbrev NodeReader := StateT NodeState (Except DocumentFault)

namespace NodeReader

/-! ## Tokens -/

def peek? : NodeReader (Option Token) := do
  match (← get).tokens with
  | .unreadable fault :: _ => throw fault
  | token :: _ => return some token
  | [] => return none

def drop : NodeReader Unit :=
  modify fun state => { state with tokens := state.tokens.tail }

def comesNext (marks : List Token) : NodeReader Bool := do
  return (← peek?).any fun token => marks.contains token

def take (mark : Token) : NodeReader Bool := do
  let found ← comesNext [mark]
  if found then drop
  return found

/-! ## Tags -/

abbrev Handles := List (String × String)

def standardHandles : Handles :=
  [("!", "!"), ("!!", Tag.standardStart)]

inductive WrittenTag where
  | missing
  /-- A lone exclamation mark: the form of the node decides. -/
  | undecided
  | named (tag : Tag)
  deriving DecidableEq, Repr

/-- The tag of a scalar: one that is not plain is a text unless its tag says
otherwise. -/
def WrittenTag.ofScalar (written : WrittenTag) (text : String) (plain : Bool) : Tag :=
  match written with
  | missing => if plain then Plain.tag text else .text
  | undecided => Plain.tag text
  | named tag => tag

def WrittenTag.ofCollection (written : WrittenTag) (standard : Tag) : Tag :=
  match written with
  | named tag => tag
  | _ => standard

def writtenTag? (handles : Handles) (handle : Option String) (ending : String) :
    Option WrittenTag := do
  let start ←
    match handle with
    | none => some ""
    | some handle => handles.lookup handle
  let name := start ++ ending
  return if name = "!" then .undecided else .named (Tag.ofName name)

structure Properties where
  anchor : Option String := none
  tag : WrittenTag := .missing
  deriving DecidableEq

def takeAnchor : NodeReader (Option String) := do
  match ← peek? with
  | some (.anchor name) => drop; return some name
  | _ => return none

/-- Takes the handle and the ending of a tag if they come next. -/
def takeTag : NodeReader (Option (Option String × String)) := do
  match ← peek? with
  | some (.tag handle ending) => drop; return some (handle, ending)
  | _ => return none

/-- Reads the name and the tag in front of a node, in either order. -/
def readProperties (handles : Handles) : NodeReader Properties := do
  let early ← takeAnchor
  let written ← takeTag
  let anchor ← if early.isNone && written.isSome then takeAnchor else pure early
  match written with
  | none => return { anchor }
  | some (handle, ending) => return { anchor, tag := ← writtenTag? handles handle ending }

/-! ## Nodes -/

/-- Enters a node under its name, which no other one has, and tells its number. -/
def enter (anchor : Option String) (node : Node) : NodeReader Nat := do
  let state ← get
  let number := state.nodes.size
  let anchors ←
    match anchor with
    | none => pure state.anchors
    | some name =>
        if (state.anchors.lookup name).isSome then throw .malformed
        else pure ((name, number) :: state.anchors)
  set { state with nodes := state.nodes.push node, anchors }
  return number

def enterScalar (properties : Properties) (text : String) (plain : Bool) : NodeReader Nat :=
  enter properties.anchor
    { tag := properties.tag.ofScalar text plain, content := .scalar text }

def enterEmpty : NodeReader Nat :=
  enterScalar {} "" true

def maxNesting : Nat := 487

def enterSequence (nesting : Nat) (properties : Properties) (readItems : NodeReader (List Nat)) :
    NodeReader Nat := do
  if maxNesting ≤ nesting then throw .tooDeep
  let number ← enter properties.anchor
    { tag := properties.tag.ofCollection .list, content := .sequence [] }
  let items ← readItems
  modify fun state => { state with nodes := state.nodes.setContent number (.sequence items) }
  return number

def enterMapping (nesting : Nat) (properties : Properties)
    (readEntries : NodeReader (List (Nat × Nat))) : NodeReader Nat := do
  if maxNesting ≤ nesting then throw .tooDeep
  let number ← enter properties.anchor
    { tag := properties.tag.ofCollection .map, content := .mapping [] }
  let entries ← readEntries
  modify fun state => { state with nodes := state.nodes.setContent number (.mapping entries) }
  return number

def named (name : String) : NodeReader Nat := do
  match (← get).anchors.lookup name with
  | some number => return number
  | none => throw .malformed

/-! ## Collections -/

inductive Position where
  /-- Inside brackets. -/
  | flow
  | block
  /-- Behind a key, where the entries of a sequence need no indentation. -/
  | afterKey
  deriving DecidableEq, Repr

/-- Takes the comma in front of an entry that is not the first one. -/
def takeComma (first : Bool) : NodeReader Unit := do
  if !first then
    if !(← take .flowEntry) then throw .malformed

mutual

def read (handles : Handles) : Nat → Nat → Position → NodeReader Nat
  | 0, _, _ => throw .malformed
  | fuel + 1, nesting, position => do
      if let some (.aliasTo name) ← peek? then
        drop
        return ← named name
      let properties ← readProperties handles
      match ← peek? with
      | some (.scalar text plain) => drop; enterScalar properties text plain
      | some .flowSequenceStart =>
          drop
          enterSequence nesting properties (readFlowItems handles fuel (nesting + 1) true)
      | some .flowMappingStart =>
          drop
          enterMapping nesting properties (readFlowEntries handles fuel (nesting + 1) true)
      | some .blockEntry =>
          if position = .afterKey then
            enterSequence nesting properties (readIndentlessItems handles fuel (nesting + 1))
          else readBlank properties
      | some .blockSequenceStart =>
          if position = .flow then readBlank properties
          else
            drop
            enterSequence nesting properties (readBlockItems handles fuel (nesting + 1))
      | some .blockMappingStart =>
          if position = .flow then readBlank properties
          else
            drop
            enterMapping nesting properties (readBlockEntries handles fuel (nesting + 1))
      | _ => readBlank properties
where
  /-- Enters the empty node behind a name or a tag. -/
  readBlank (properties : Properties) : NodeReader Nat :=
    if properties = {} then throw .malformed else enterScalar properties "" true

/-- Reads a node unless one of the given tokens comes next, which leaves an
empty one. -/
def readUnless (handles : Handles) : Nat → Nat → Position → List Token → NodeReader Nat
  | 0, _, _, _ => throw .malformed
  | fuel + 1, nesting, position, marks => do
      if ← comesNext marks then enterEmpty else read handles fuel nesting position

/-- Reads what follows a key: a colon and a node, or nothing, which leaves an
empty one. -/
def readValue (handles : Handles) : Nat → Nat → Position → List Token → NodeReader Nat
  | 0, _, _, _ => throw .malformed
  | fuel + 1, nesting, position, marks => do
      if ← take .value then readUnless handles fuel nesting position marks else enterEmpty

def readBlockItems (handles : Handles) : Nat → Nat → NodeReader (List Nat)
  | 0, _ => throw .malformed
  | fuel + 1, nesting => do
      if ← take .blockEntry then
        let item ← readUnless handles fuel nesting .block [.blockEntry, .blockEnd]
        return item :: (← readBlockItems handles fuel nesting)
      else if ← take .blockEnd then return []
      else throw .malformed

/-- Reads the items of a sequence that ends where its block does. -/
def readIndentlessItems (handles : Handles) : Nat → Nat → NodeReader (List Nat)
  | 0, _ => throw .malformed
  | fuel + 1, nesting => do
      if ← take .blockEntry then
        let item ← readUnless handles fuel nesting .block [.blockEntry, .key, .value, .blockEnd]
        return item :: (← readIndentlessItems handles fuel nesting)
      else return []

def readBlockEntries (handles : Handles) : Nat → Nat → NodeReader (List (Nat × Nat))
  | 0, _ => throw .malformed
  | fuel + 1, nesting => do
      if ← take .key then
        let marks : List Token := [.key, .value, .blockEnd]
        let key ← readUnless handles fuel nesting .afterKey marks
        let value ← readValue handles fuel nesting .afterKey marks
        return (key, value) :: (← readBlockEntries handles fuel nesting)
      else if ← take .blockEnd then return []
      else throw .malformed

/-- Reads the items of a sequence in brackets and its end. An item with a key is
a mapping of one entry. -/
def readFlowItems (handles : Handles) : Nat → Nat → Bool → NodeReader (List Nat)
  | 0, _, _ => throw .malformed
  | fuel + 1, nesting, first => do
      if ← take .flowSequenceEnd then return []
      takeComma first
      if ← take .flowSequenceEnd then return []
      let item ←
        if ← take .key then
          enterMapping nesting {} do
            let key ←
              readUnless handles fuel (nesting + 1) .flow [.value, .flowEntry, .flowSequenceEnd]
            let value ← readValue handles fuel (nesting + 1) .flow [.flowEntry, .flowSequenceEnd]
            return [(key, value)]
        else read handles fuel nesting .flow
      return item :: (← readFlowItems handles fuel nesting false)

/-- Reads the entries of a mapping in brackets and its end. A node alone is a
key with an empty value. -/
def readFlowEntries (handles : Handles) : Nat → Nat → Bool → NodeReader (List (Nat × Nat))
  | 0, _, _ => throw .malformed
  | fuel + 1, nesting, first => do
      if ← take .flowMappingEnd then return []
      takeComma first
      if ← take .flowMappingEnd then return []
      let entry ←
        if ← take .key then
          let key ← readUnless handles fuel nesting .flow [.value, .flowEntry, .flowMappingEnd]
          let value ← readValue handles fuel nesting .flow [.flowEntry, .flowMappingEnd]
          pure (key, value)
        else
          let key ← read handles fuel nesting .flow
          let value ← enterEmpty
          pure (key, value)
      return entry :: (← readFlowEntries handles fuel nesting false)

end

/-! ## Whole documents -/

/-- Reads the directives in front of a document. A version other than the first
is refused, and so is one that is given twice, as well as a handle. -/
def readDirectives : Nat → Bool → Handles → NodeReader Handles
  | 0, _, _ => throw .malformed
  | fuel + 1, versioned, handles => do
      match ← peek? with
      | some (.versionDirective major) =>
          drop
          if versioned || major ≠ 1 then throw .malformed
          readDirectives fuel true handles
      | some (.tagDirective handle start) =>
          drop
          if (handles.lookup handle).isSome then throw .malformed
          readDirectives fuel versioned ((handle, start) :: handles)
      | some .otherDirective => drop; readDirectives fuel versioned handles
      | _ => return handles ++ standardHandles

/-- Whether a token is a directive or the mark of a document. -/
def startsDocument : Token → Bool
  | .versionDirective _ => true
  | .tagDirective _ _ => true
  | .otherDirective => true
  | .documentStart => true
  | _ => false

/-- Whether nothing is written in a document whose mark a token follows. -/
def endsBlank (token : Token) : Bool :=
  token = .documentEnd || startsDocument token

def fuelFor (tokens : List Token) : Nat :=
  4 * tokens.length + 4

/-- Reads directives and the mark of the document that follows them. -/
def readStart (fuel : Nat) : NodeReader Handles := do
  let handles ← readDirectives fuel false []
  if !(← take .documentStart) then throw .malformed
  return handles

def readDocument (fuel : Nat) : NodeReader Nat := do
  if (← peek?).any startsDocument then
    let handles ← readStart fuel
    if (← peek?).all endsBlank then enterEmpty else read handles fuel 0 .block
  else read standardHandles fuel 0 .block

/-- Reads the end of the text, which may be marked as the end of a document. -/
def readEnd : Nat → NodeReader Unit
  | 0 => throw .malformed
  | fuel + 1 => do
      if ← take .documentEnd then readEnd fuel
      else if (← peek?).isSome then
        let _ ← readStart fuel
        throw .malformed

def readText (fuel : Nat) : NodeReader (Option Nat) := do
  if (← peek?).isNone then return none
  let root ← readDocument fuel
  readEnd fuel
  return some root

end NodeReader

/-- The single document of a text; there is none if the text is empty. Anything
after the end of the first document is refused. -/
def Composition.ofText (text : List Char) : Except DocumentFault (Option Composition) := do
  let tokens := tokensOf text
  let (root, state) ← (NodeReader.readText (NodeReader.fuelFor tokens)).run { tokens }
  return root.map fun root => { nodes := state.nodes, root }

end RoutingPlane.Yaml
