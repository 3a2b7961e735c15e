import ActorSpec.Yaml.Scalar.Tag

/-!
# Nodes

The tree that a document consists of. An alias is a copy of the node that its anchor names, so a node
keeps the mark of the place where it is written.
-/

namespace ActorSpec.Yaml

inductive Node where
  | scalar (tag : Tag) (text : String) (start : Mark)
  | sequence (tag : Tag) (items : List Node) (start : Mark)
  | mapping (tag : Tag) (entries : List (Node × Node)) (start : Mark)

namespace Node

def start : Node → Mark
  | .scalar _ _ m | .sequence _ _ m | .mapping _ _ m => m

def tag : Node → Tag
  | .scalar t _ _ | .sequence t _ _ | .mapping t _ _ => t

mutual

/-- The number of nodes in a tree, its root included. -/
def size : Node → Nat
  | .scalar .. => 1
  | .sequence _ items _ => sizeItems items + 1
  | .mapping _ entries _ => sizeEntries entries + 1

def sizeItems : List Node → Nat
  | [] => 0
  | n :: rest => n.size + sizeItems rest

def sizeEntries : List (Node × Node) → Nat
  | [] => 0
  | (k, v) :: rest => k.size + v.size + sizeEntries rest

end

end Node

end ActorSpec.Yaml
