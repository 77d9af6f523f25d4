import FileSieve.Document.Plain
import FileSieve.Document.Token

/-!
# The tree of a document

Tokens make up one document: directives, a node, and nothing behind it. A node may have a name, by which it can be
referred to further on but not within itself, and a tag. What is left out is an empty node.
-/

namespace FileSieve.Document

/-- What is left of the tokens, and what is known of the nodes before. -/
structure Remaining where
  /-- The tokens. -/
  tokens : List Token
  /-- The fault behind the tokens, if there is one. -/
  fault : Option Fault
  /-- The named nodes; one that is not complete yet has no node here. -/
  anchors : List (Text × Option Node) := []
  /-- What the handles of tags stand for. -/
  handles : List (Text × Text) := []

/-- A reader of nodes from tokens. -/
abbrev Builder := StateT Remaining (Except Fault)

namespace Builder

/-- The next token, which stays; none behind the last one. -/
def peek : Builder (Option Token) := do
  let s ← get
  match s.tokens, s.fault with
  | token :: _, _ => return some token
  | [], some e => throw e
  | [], none => return none

/-- Passes over the next token. -/
def skip : Builder Unit :=
  modify fun s => { s with tokens := s.tokens.drop 1 }

/-- Whether the next token is one of `tokens`. -/
def sees (tokens : List Token) : Builder Bool := do
  return (← peek).any tokens.contains

/-- How many tokens are left. No two nodes begin with the same one, so that it tells them apart. -/
def left : Builder Nat :=
  return (← get).tokens.length

/-- Gives up. -/
def fail {α : Type} : Builder α :=
  throw .malformed

/-- A name for the node that follows; no name is given twice. -/
def beginAnchor : Option Text → Builder Unit
  | none => return
  | some name => do
    let s ← get
    if (s.anchors.lookup name).isSome then fail
    set { s with anchors := (name, none) :: s.anchors }

/-- Gives a node its name. -/
def endAnchor (anchor : Option Text) (node : Node) : Builder Node := do
  match anchor with
  | none => return node
  | some name =>
    modify fun s => { s with anchors := (name, some node) :: s.anchors }
    return node

/-- The node of a name. -/
def named (name : Text) : Builder Node := do
  match (← get).anchors.lookup name with
  | some (some node) => return node
  | _ => fail

/-- The name and the tag in front of a node, in either order. -/
def properties : Builder (Option Text × Option TagName) := do
  match ← peek with
  | some (.anchor name) =>
    skip
    match ← peek with
    | some (.tag tag) => skip; return (some name, some tag)
    | _ => return (some name, none)
  | some (.tag tag) =>
    skip
    match ← peek with
    | some (.anchor name) => skip; return (some name, some tag)
    | _ => return (none, some tag)
  | _ => return (none, none)

/-- The full name of a tag. -/
def fullName (tag : TagName) : Builder Text := do
  match tag.handle with
  | none => return tag.suffix
  | some handle =>
    match (← get).handles.lookup handle with
    | some start => return start ++ tag.suffix
    | none => fail

/-- A tag that says nothing. -/
def isOpenTag (name : Option Text) : Bool :=
  name.all (· == ("!" : Text))

/-- The tag of a collection. -/
def collectionTag (name : Option Text) (otherwise : Tag) : Tag :=
  match name with
  | some t => if isOpenTag name then otherwise else .ofName t
  | none => otherwise

/-- The tag of a scalar: one in quotes or in a block is a text unless its tag is open. -/
def scalarTag (name : Option Text) (plain : Bool) (t : Text) : Tag :=
  match name with
  | none => if plain then plainTag t else .str
  | some full => if isOpenTag name then plainTag t else .ofName full

mutual

/-- The next node; `block` says whether it may be a collection in lines, and `indentless` whether such a sequence may
stand without indentation of its own. -/
def node : (fuel : Nat) → (block indentless : Bool) → Builder Node
  | 0, _, _ => fail
  | fuel + 1, block, indentless => do
    match ← peek with
    | some (.reference name) => skip; named name
    | _ =>
      let (anchor, tag) ← properties
      let name ← tag.mapM fullName
      beginAnchor anchor
      let collected (read : Builder Node) : Builder Node := do endAnchor anchor (← read)
      match ← peek with
      | some .blockEntry =>
        if indentless then collected (return .sequence (collectionTag name .seq) (← indentlessItems fuel))
        else leftOut anchor name
      | some (.scalar t plain) => skip; collected (return .scalar (scalarTag name plain t) t)
      | some .flowSequence =>
        skip; collected (return .sequence (collectionTag name .seq) (← flowItems fuel true))
      | some .flowMapping =>
        let number ← left
        skip; collected (return .mapping (collectionTag name .map) number (← flowEntries fuel true))
      | some .blockSequence =>
        if block then do
          skip; collected (return .sequence (collectionTag name .seq) (← blockItems fuel))
        else leftOut anchor name
      | some .blockMapping =>
        if block then do
          let number ← left
          skip; collected (return .mapping (collectionTag name .map) number (← blockEntries fuel))
        else leftOut anchor name
      | _ => leftOut anchor name

/-- A node of which there is no more than a name or a tag; one of them there must be. -/
def leftOut (anchor name : Option Text) : Builder Node :=
  if anchor.isNone && name.isNone then fail
  else endAnchor anchor (.scalar (scalarTag name true []) [])

/-- The next node, or the empty one if a token of `ends` comes first. -/
def nodeUnless (ends : List Token) : (fuel : Nat) → (block indentless : Bool) → Builder Node
  | 0, _, _ => fail
  | fuel + 1, block, indentless => do
    if ← sees ends then return .empty else node fuel block indentless

/-- The value behind a key, which may be left out. -/
def valueUnless (ends : List Token) : (fuel : Nat) → (block indentless : Bool) → Builder Node
  | 0, _, _ => fail
  | fuel + 1, block, indentless => do
    if ← sees [.value] then
      skip
      nodeUnless ends fuel block indentless
    else return .empty

/-- The items of a sequence in lines. -/
def blockItems : (fuel : Nat) → Builder (List Node)
  | 0 => fail
  | fuel + 1 => do
    match ← peek with
    | some .blockEntry =>
      skip
      let item ← nodeUnless [.blockEntry, .blockEnd] fuel true false
      return item :: (← blockItems fuel)
    | some .blockEnd => skip; return []
    | _ => fail

/-- The items of a sequence in lines without indentation of its own. -/
def indentlessItems : (fuel : Nat) → Builder (List Node)
  | 0 => fail
  | fuel + 1 => do
    if ← sees [.blockEntry] then
      skip
      let item ← nodeUnless [.blockEntry, .key, .value, .blockEnd] fuel true false
      return item :: (← indentlessItems fuel)
    else return []

/-- The entries of a mapping in lines. -/
def blockEntries : (fuel : Nat) → Builder (List (Node × Node))
  | 0 => fail
  | fuel + 1 => do
    match ← peek with
    | some .key =>
      skip
      let key ← nodeUnless [.key, .value, .blockEnd] fuel true true
      let value ← valueUnless [.key, .value, .blockEnd] fuel true true
      return (key, value) :: (← blockEntries fuel)
    | some .blockEnd => skip; return []
    | _ => fail

/-- The items of a sequence in brackets; `first` says whether none has been read. A key with a value is a mapping of
its own. -/
def flowItems : (fuel : Nat) → (first : Bool) → Builder (List Node)
  | 0, _ => fail
  | fuel + 1, first => do
    if ← sees [.flowSequenceEnd] then
      skip
      return []
    if !first then
      if ← sees [.flowEntry] then skip else fail
    match ← peek with
    | some .key =>
      let number ← left
      skip
      let key ← nodeUnless [.value, .flowEntry, .flowSequenceEnd] fuel false false
      let value ← valueUnless [.flowEntry, .flowSequenceEnd] fuel false false
      return .mapping .map number [(key, value)] :: (← flowItems fuel false)
    | some .flowSequenceEnd => skip; return []
    | _ =>
      let item ← node fuel false false
      return item :: (← flowItems fuel false)

/-- The entries of a mapping in braces; `first` says whether none has been read. -/
def flowEntries : (fuel : Nat) → (first : Bool) → Builder (List (Node × Node))
  | 0, _ => fail
  | fuel + 1, first => do
    if ← sees [.flowMappingEnd] then
      skip
      return []
    if !first then
      if ← sees [.flowEntry] then skip else fail
    match ← peek with
    | some .key =>
      skip
      let key ← nodeUnless [.value, .flowEntry, .flowMappingEnd] fuel false false
      let value ← valueUnless [.flowEntry, .flowMappingEnd] fuel false false
      return (key, value) :: (← flowEntries fuel false)
    | some .flowMappingEnd => skip; return []
    | _ =>
      let key ← node fuel false false
      return (key, .empty) :: (← flowEntries fuel false)

end

/-- The handles of tags that every document has. -/
def defaultHandles : List (Text × Text) :=
  [("!", "!"), ("!!", tagSpace)]

/-- The directives in front of a document, behind `handles`; `versioned` says whether a version has been given. -/
def directives : (fuel : Nat) → (versioned : Bool) → (handles : List (Text × Text)) → Builder (List (Text × Text))
  | 0, _, handles => return handles
  | fuel + 1, versioned, handles => do
    match ← peek with
    | some (.directive d) =>
      skip
      match d with
      | .version major _ => if versioned || major ≠ 1 then fail else directives fuel true handles
      | .handle name start =>
        if (handles.lookup name).isSome then fail else directives fuel versioned ((name, start) :: handles)
      | .other => directives fuel versioned handles
    | _ => return handles

/-- Passes over ends of documents. -/
def skipEnds : (fuel : Nat) → Builder Unit
  | 0 => return
  | fuel + 1 => do
    if ← sees [.documentEnd] then
      skip
      skipEnds fuel

/-- The node behind a beginning of a document, which may be left out. -/
def content (fuel : Nat) : Builder Node := do
  match ← peek with
  | none | some (.directive _) | some .documentStart | some .documentEnd => return .empty
  | some _ => node fuel true false

/-- The node of a document that is announced by directives or a beginning; none if there is no document. -/
def announced (fuel : Nat) : Builder (Option Node) := do
  if (← peek).isNone then return none
  let handles ← directives fuel false []
  modify fun s => { s with handles := handles ++ defaultHandles }
  if ← sees [.documentStart] then
    skip
    return some (← content fuel)
  else fail

/-- The one document of the tokens; none if there is none. -/
def document (fuel : Nat) : Builder (Option Node) := do
  let root ← match ← peek with
    | none | some (.directive _) | some .documentStart => announced fuel
    | some _ =>
      modify fun s => { s with handles := defaultHandles }
      pure (some (← node fuel true false))
  skipEnds fuel
  if (← peek).isNone then return root else fail

end Builder

/-- The tree of a document; none if there is no document. -/
def tree (t : Text) : Except Fault (Option Node) :=
  let (all, fault) := tokens t
  (Builder.document (4 * all.length + 8)).run' { tokens := all, fault }

end FileSieve.Document
