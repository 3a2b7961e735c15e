import ActorSpec.Value.Basic
import ActorSpec.Yaml.Node
import ActorSpec.Yaml.Scalar.Data

/-!
# The data of a node

A sequence becomes a list and a mapping a mapping; of two entries with one key the later gives the
value. The entries of mappings that a merge key refers to come in front of the mapping's own. Under a
written-out tag, a mapping may be the set of its keys, and a sequence of mappings with one entry each a
list of pairs.

`Node.value` gives data for every node, with a null for what has none; `Node.faults` lists what has
none, with the level at which it is met: the parts of a node are looked at before the parts of those.
-/

namespace ActorSpec.Yaml.Node

def isMerge (key : Node) : Bool := key.tag = .merge

/-- The tag of a key: the sign for a default value is an ordinary text there. -/
def keyTag (tag : Tag) : Tag := if tag = .value then .str else tag

/-- The text of a node that a written-out tag calls a scalar: its own, or that of its default
value. -/
def scalarText? : Node → Option String
  | .scalar _ text _ => some text
  | .sequence .. => none
  | .mapping _ entries _ => defaultText? entries
where
  defaultText? : List (Node × Node) → Option String
  | [] => none
  | (k, v) :: rest => if k.tag = .value then scalarText? v else defaultText? rest

/-- The scalar that is made of a node under a tag, whatever the kind of node. A date is looked for in
the node itself, and entries are no text. -/
def asScalar (tag : Tag) (n : Node) : Except Fault Scalar :=
  match n, n.scalarText? with
  | .mapping .., some text =>
    if tag = .timestamp then .error .momentOfParts else scalarOf tag text n.start
  | _, some text => scalarOf tag text n.start
  | _, none => .error .malformed

/-- The key of an entry; only scalars can be keys. -/
def key (n : Node) : Except Fault Scalar := n.asScalar (keyTag n.tag)

/-- The tags under which a sequence is a list. -/
def isPairing (tag : Tag) : Bool := tag = .omap || tag = .pairs

/-! ## Data -/

mutual

def value : Node → Value
  | .scalar tag text m => .scalar ((scalarOf tag text m).toOption.getD .null)
  | .sequence tag items m =>
    if tag = .seq then .list (itemValues items)
    else if isPairing tag then .list (pairValues items)
    else .scalar ((asScalar tag (.sequence tag items m)).toOption.getD .null)
  | .mapping tag entries m =>
    let content := Mapping.ofEntries (mergedEntries entries ++ ownEntries entries)
    if tag = .map then .mapping content
    else if tag = .set then .set content.keys
    else .scalar ((asScalar tag (.mapping tag entries m)).toOption.getD .null)

def itemValues : List Node → List Value
  | [] => []
  | n :: rest => n.value :: itemValues rest

/-- The only entry of each mapping in a list, as a pair. -/
def pairValues : List Node → List Value
  | [] => []
  | n :: rest => n.pairValue :: pairValues rest

def pairValue : Node → Value
  | .mapping _ [(k, v)] _ => .tuple [k.value, v.value]
  | _ => .null

/-- The entries of a mapping but those with a merge key. -/
def ownEntries : List (Node × Node) → List (Scalar × Value)
  | [] => []
  | (k, v) :: rest =>
    if k.isMerge then ownEntries rest
    else (k.key.toOption.getD .null, v.value) :: ownEntries rest

/-- The entries that the merge keys of a mapping bring in. -/
def mergedEntries : List (Node × Node) → List (Scalar × Value)
  | [] => []
  | (k, v) :: rest => (if k.isMerge then v.mergeSource else []) ++ mergedEntries rest

/-- The entries of a mapping that is merged, or of a list of them; the first of a list comes last. -/
def mergeSource : Node → List (Scalar × Value)
  | .scalar .. => []
  | .sequence _ items _ => mergeSources items
  | .mapping _ entries _ => mergedEntries entries ++ ownEntries entries

def mergeSources : List Node → List (Scalar × Value)
  | [] => []
  | n :: rest => mergeSources rest ++ n.mergeSource

end

/-! ## Faults -/

/-- A fault and the level at which it is met. -/
structure LevelFault where
  level : Nat
  fault : Fault

def faultAt {α : Type} (level : Nat) : Except Fault α → List LevelFault
  | .ok _ => []
  | .error fault => [⟨level, fault⟩]

def isMapping : Node → Bool
  | .mapping .. => true
  | _ => false

mutual

/-- Every merge key of a mapping has a mapping, or a list of mappings, as its value. -/
def mergesAreSound : List (Node × Node) → Bool
  | [] => true
  | (k, v) :: rest => (!k.isMerge || v.isMergeSource) && mergesAreSound rest

def isMergeSource : Node → Bool
  | .scalar .. => false
  | .sequence _ items _ => areMergeSources items
  | .mapping _ entries _ => mergesAreSound entries

def areMergeSources : List Node → Bool
  | [] => true
  | n :: rest => n.isMapping && n.isMergeSource && areMergeSources rest

end

/-- The fault of a node with a tag that is not for nodes of its kind. A list, a mapping or a set is
begun before its parts are looked at, so what they should have been shows one level further down. -/
def misfit (level : Nat) (tag : Tag) (n : Node) : List LevelFault :=
  if tag.isCollection then [⟨level + 1, .malformed⟩] else faultAt level (n.asScalar tag)

mutual

def faultsFrom (level : Nat) : Node → List LevelFault
  | .scalar tag text m => misfit level tag (.scalar tag text m)
  | .sequence tag items m =>
    if tag = .seq then itemFaults (level + 1) items
    else if isPairing tag then pairFaults (level + 1) items
    else misfit level tag (.sequence tag items m)
  | .mapping tag entries m =>
    if tag = .map ∨ tag = .set then
      if mergesAreSound entries then
        mergedFaults (level + 1) entries ++ ownFaults (level + 1) entries
      else [⟨level + 1, .malformed⟩]
    else misfit level tag (.mapping tag entries m)

def itemFaults (level : Nat) : List Node → List LevelFault
  | [] => []
  | n :: rest => n.faultsFrom level ++ itemFaults level rest

def pairFaults (level : Nat) : List Node → List LevelFault
  | [] => []
  | n :: rest => n.pairFault level ++ pairFaults level rest

def pairFault (level : Nat) : Node → List LevelFault
  | .mapping _ [(k, v)] _ => k.faultsFrom level ++ v.faultsFrom level
  | _ => [⟨level, .malformed⟩]

def ownFaults (level : Nat) : List (Node × Node) → List LevelFault
  | [] => []
  | (k, v) :: rest =>
    if k.isMerge then ownFaults level rest
    else faultAt level k.key ++ v.faultsFrom level ++ ownFaults level rest

def mergedFaults (level : Nat) : List (Node × Node) → List LevelFault
  | [] => []
  | (k, v) :: rest => (if k.isMerge then v.sourceFaults level else []) ++ mergedFaults level rest

def sourceFaults (level : Nat) : Node → List LevelFault
  | .scalar .. => []
  | .sequence _ items _ => sourcesFaults level items
  | .mapping _ entries _ => mergedFaults level entries ++ ownFaults level entries

def sourcesFaults (level : Nat) : List Node → List LevelFault
  | [] => []
  | n :: rest => sourcesFaults level rest ++ n.sourceFaults level

end

def faults (n : Node) : List LevelFault := n.faultsFrom 0

/-- The fault that is met first: of those at the least level the first. -/
def firstFault? (n : Node) : Option Fault :=
  let later := fun (a : LevelFault) (b : LevelFault) => if b.level < a.level then b else a
  match n.faults with
  | [] => none
  | f :: rest => some (rest.foldl later f).fault

/-- The data of a node, or the fault that is met first. -/
def data (n : Node) : Except Fault Value :=
  match n.firstFault? with
  | none => .ok n.value
  | some fault => .error fault

end ActorSpec.Yaml.Node
