import ActorSpec.Yaml.Node
import ActorSpec.Yaml.Token.Lexer

/-!
# From tokens to nodes

Reads the one document of a stream. Tags are resolved on the way: by their handles where they are
written, by the form of the text for a plain scalar, and otherwise by the kind of node.

The readers call each other on what remains of the tokens, with at most three others between two that
take a token, so four times the number of tokens bounds the depth.
-/

namespace ActorSpec.Yaml

structure Parser where
  tokens : List Token
  /-- What stopped the reading of tokens, if they do not reach the end. -/
  fault : Option Fault
  handles : List (String × String)
  /-- The nodes with an anchor; nothing for one that is still being read. -/
  anchors : List (String × Option Node)
  /-- An alias stood inside of the node that its anchor names. -/
  endless : Bool

abbrev Parse := StateT Parser (Except Fault)

namespace Parse

/-- The next token, which stays where it is. -/
def peek : Parse Token := do
  let s ← get
  match s.tokens with
  | token :: _ => return token
  | [] => throw (s.fault.getD .malformed)

def advance : Parse Unit := modify fun s => { s with tokens := s.tokens.drop 1 }

def malformed {α : Type} : Parse α := throw .malformed

/-- A null where a node is left out. -/
def emptyNode (mark : Mark) : Node := .scalar .null "" mark

/-- The written-out name of a tag; nothing for the tag that stands for no tag. -/
def tagName? (name : TagName) : Parse (Option String) := do
  let full ← match name.handle with
    | none => pure name.suffix
    | some handle =>
      match (← get).handles.lookup handle with
      | some expansion => pure (expansion ++ name.suffix)
      | none => malformed
  return some full

/-- An anchor and a tag, in either order, with the mark of the first of them. -/
def properties : Parse (Option String × Option String × Option Mark) := do
  let first ← peek
  match first.kind with
  | .anchor anchor =>
    advance
    match (← peek).kind with
    | .tag name => advance; return (some anchor, ← tagName? name, some first.start)
    | _ => return (some anchor, none, some first.start)
  | .tag name =>
    advance
    match (← peek).kind with
    | .anchor anchor => advance; return (some anchor, ← tagName? name, some first.start)
    | _ => return (none, ← tagName? name, some first.start)
  | _ => return (none, none, none)

/-- A tag that is written out and says more than a lone exclamation mark. -/
def specific? (tag : Option String) : Option Tag := (tag.filter (· != "!")).map Tag.ofName

def scalarNode (tag : Option String) (text : String) (plain : Bool) (start : Mark) : Node :=
  let resolved := (specific? tag).getD (if plain || tag.isSome then Tag.ofPlain text else .str)
  .scalar resolved text start

/-- Takes an anchor for the node that is about to be read. No two nodes share one. -/
def reserve (anchor : Option String) : Parse Unit := do
  match anchor with
  | none => return
  | some name =>
    if ((← get).anchors.lookup name).isSome then malformed
    modify fun s => { s with anchors := (name, none) :: s.anchors }

/-- Lets later aliases refer to a node. -/
def define (anchor : Option String) (node : Node) : Parse Node := do
  match anchor with
  | none => return node
  | some name =>
    modify fun s => { s with anchors := (name, some node) :: s.anchors }
    return node

/-- The node that an alias stands for. -/
def referent (name : String) (mark : Mark) : Parse Node := do
  match (← get).anchors.lookup name with
  | some (some node) => return node
  | some none =>
    modify fun s => { s with endless := true }
    return emptyNode mark
  | none => malformed

/-- A node is left out in front of a token of one of these kinds. -/
def endsEntry (kind : TokenKind) : Bool :=
  match kind with
  | .key | .value | .blockEnd => true
  | _ => false

def endsItem (kind : TokenKind) : Bool :=
  match kind with
  | .blockEntry | .blockEnd => true
  | _ => false

def endsOpenItem (kind : TokenKind) : Bool := endsItem kind || endsEntry kind

def endsFlowItem (kind : TokenKind) : Bool :=
  match kind with
  | .value | .flowEntry | .flowSequenceEnd => true
  | _ => false

def endsFlowValue (kind : TokenKind) : Bool :=
  match kind with
  | .flowEntry | .flowSequenceEnd => true
  | _ => false

def endsFlowKey (kind : TokenKind) : Bool :=
  match kind with
  | .value | .flowEntry | .flowMappingEnd => true
  | _ => false

def endsFlowEntry (kind : TokenKind) : Bool :=
  match kind with
  | .flowEntry | .flowMappingEnd => true
  | _ => false

/-- Where a node may be: inside a flow collection, in a block, or where the items of a sequence may
stand without indentation of their own. -/
inductive Place where
  | flow
  | block
  | open
deriving DecidableEq

/-- The comma in front of every item of a flow collection but the first. -/
def comma (first : Bool) : Parse Unit := do
  if !first then
    match (← peek).kind with
    | .flowEntry => advance
    | _ => malformed

mutual

def node : Nat → Place → Parse Node
  | 0, _ => malformed
  | fuel + 1, place => do
    let first ← peek
    match first.kind with
    | .reference name =>
      advance
      referent name first.start
    | _ =>
      let (anchor, tag, mark) ← properties
      let token ← peek
      reserve anchor
      let start := mark.getD token.start
      let content ← match token.kind with
        | .scalar text plain => advance; pure (scalarNode tag text plain start)
        | .flowSequenceStart =>
          advance
          pure (.sequence ((specific? tag).getD .seq) (← flowItems fuel true) start)
        | .flowMappingStart =>
          advance
          pure (.mapping ((specific? tag).getD .map) (← flowEntries fuel true) start)
        | .blockSequenceStart =>
          if place = .flow then missing tag anchor start
          else
            advance
            pure (.sequence ((specific? tag).getD .seq) (← blockItems fuel) start)
        | .blockMappingStart =>
          if place = .flow then missing tag anchor start
          else
            advance
            pure (.mapping ((specific? tag).getD .map) (← blockEntries fuel) start)
        | .blockEntry =>
          if place = .open then
            pure (.sequence ((specific? tag).getD .seq) (← openItems fuel) start)
          else missing tag anchor start
        | _ => missing tag anchor start
      define anchor content

/-- A node with an anchor or a tag may have no content. -/
def missing (tag anchor : Option String) (start : Mark) : Parse Node := do
  if tag.isNone && anchor.isNone then malformed
  return scalarNode tag "" (tag.isNone || tag = some "!") start

/-- A node, or a null where one of the given tokens follows. -/
def nodeUnless : Nat → Place → (TokenKind → Bool) → Mark → Parse Node
  | 0, _, _, _ => malformed
  | fuel + 1, place, ends, mark => do
    if ends (← peek).kind then return emptyNode mark
    node fuel place

/-- The items of a block sequence, up to the end of the block. -/
def blockItems : Nat → Parse (List Node)
  | 0 => malformed
  | fuel + 1 => do
    let token ← peek
    match token.kind with
    | .blockEntry =>
      advance
      let item ← nodeUnless fuel .block endsItem token.stop
      return item :: (← blockItems fuel)
    | .blockEnd => advance; return []
    | _ => malformed

/-- The items of a sequence that is not indented against its key. -/
def openItems : Nat → Parse (List Node)
  | 0 => malformed
  | fuel + 1 => do
    let token ← peek
    match token.kind with
    | .blockEntry =>
      advance
      let item ← nodeUnless fuel .block endsOpenItem token.stop
      return item :: (← openItems fuel)
    | _ => return []

/-- The value of an entry, or a null where there is none. -/
def entryValue : Nat → Place → (TokenKind → Bool) → Parse Node
  | 0, _, _ => malformed
  | fuel + 1, place, ends => do
    let token ← peek
    match token.kind with
    | .value => advance; nodeUnless fuel place ends token.stop
    | _ => return emptyNode token.start

def blockEntries : Nat → Parse (List (Node × Node))
  | 0 => malformed
  | fuel + 1 => do
    let token ← peek
    match token.kind with
    | .key =>
      advance
      let key ← nodeUnless fuel .open endsEntry token.stop
      let value ← entryValue fuel .open endsEntry
      return (key, value) :: (← blockEntries fuel)
    | .blockEnd => advance; return []
    | _ => malformed

def flowItems : Nat → Bool → Parse (List Node)
  | 0, _ => malformed
  | fuel + 1, first => do
    match (← peek).kind with
    | .flowSequenceEnd => advance; return []
    | _ =>
      comma first
      let token ← peek
      match token.kind with
      | .key =>
        advance
        let key ← nodeUnless fuel .flow endsFlowItem token.stop
        let value ← entryValue fuel .flow endsFlowValue
        return .mapping .map [(key, value)] token.start :: (← flowItems fuel false)
      | .flowSequenceEnd => advance; return []
      | _ =>
        let item ← node fuel .flow
        return item :: (← flowItems fuel false)

def flowEntries : Nat → Bool → Parse (List (Node × Node))
  | 0, _ => malformed
  | fuel + 1, first => do
    match (← peek).kind with
    | .flowMappingEnd => advance; return []
    | _ =>
      comma first
      let token ← peek
      match token.kind with
      | .key =>
        advance
        let key ← nodeUnless fuel .flow endsFlowKey token.stop
        let value ← entryValue fuel .flow endsFlowEntry
        return (key, value) :: (← flowEntries fuel false)
      | .flowMappingEnd => advance; return []
      | _ =>
        let key ← node fuel .flow
        return (key, emptyNode (← peek).start) :: (← flowEntries fuel false)

end

/-! ## The document -/

def defaultHandles : List (String × String) := [("!", "!"), ("!!", "tag:yaml.org,2002:")]

/-- The directives in front of a document. Each handle may be given once, the version too. -/
def directives : Nat → Bool → Parse Unit
  | 0, _ => malformed
  | fuel + 1, versioned => do
    match (← peek).kind with
    | .directive (.version major) =>
      if versioned || major != 1 then malformed
      advance
      directives fuel true
    | .directive (.tag handle expansion) =>
      if ((← get).handles.lookup handle).isSome then malformed
      modify fun s => { s with handles := (handle, expansion) :: s.handles }
      advance
      directives fuel versioned
    | .directive .other => advance; directives fuel versioned
    | _ => modify fun s => { s with handles := s.handles ++ defaultHandles }

def dropDocumentEnds : Nat → Parse Unit
  | 0 => malformed
  | fuel + 1 => do
    match (← peek).kind with
    | .documentEnd => advance; dropDocumentEnds fuel
    | _ => return

/-- The root of a document that starts with directives or a marker, and may be empty. -/
def explicitRoot (fuel : Nat) : Parse Node := do
  directives fuel false
  match (← peek).kind with
  | .documentStart => advance
  | _ => malformed
  let token ← peek
  match token.kind with
  | .directive _ | .documentStart | .documentEnd | .streamEnd => return emptyNode token.start
  | _ => node fuel .block

/-- The root of the only document of a stream, if the stream has one. -/
def root (fuel : Nat) : Parse (Option Node) := do
  let found ← match (← peek).kind with
    | .streamEnd => pure none
    | .directive _ | .documentStart => some <$> explicitRoot fuel
    | _ =>
      modify fun s => { s with handles := defaultHandles }
      some <$> node fuel .block
  dropDocumentEnds fuel
  match (← peek).kind with
  | .streamEnd => return found
  | _ => malformed

end Parse

/-- The root node of a text, if there is anything in it. -/
def Node.ofText (text : String) : Except Fault (Option Node) := do
  let (tokens, fault) := Yaml.tokens text
  let (root, s) ← (Parse.root (4 * tokens.length + 8)).run ⟨tokens, fault, [], [], false⟩
  if s.endless then throw .endless
  return root

end ActorSpec.Yaml
