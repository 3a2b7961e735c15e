import ActorSpec.SpecPath
import ActorSpec.Yaml.Node.Parser

/-!
# Source maps

Where every value of a spec is written: the line and the column, both from one, under the path of the
value. Entries with a key that is no scalar have no path. Where one path leads to several nodes, the
one that is first in the text is kept.

The map is filled from a stack of nodes that are still to be entered. The last node put on the stack
is taken first, so nodes are entered from the end of the text to its beginning, and the entry that
stays is the first in the text.
-/

namespace ActorSpec

/-- A line and a column, as far as they are known. -/
structure Position where
  line : Option Int
  column : Option Int
deriving DecidableEq

abbrev SourceMap := List (String × Position)

namespace SourceMap

def find? (m : SourceMap) (path : String) : Option Position := m.lookup path

/-- Enters a position, in place of an earlier one for the path. -/
def enter (m : SourceMap) (path : String) (position : Position) : SourceMap :=
  match m with
  | [] => [(path, position)]
  | e :: rest => if e.1 = path then (path, position) :: rest else e :: enter rest path position

def positionOf (n : Yaml.Node) : Position := ⟨some (n.start.line + 1), some (n.start.column + 1)⟩

/-- The parts of a node, each with its path, in the order of the text. -/
def parts (path : String) : Yaml.Node → List (String × Yaml.Node)
  | .scalar .. => []
  | .sequence _ items _ => items.zipIdx.map fun (n, i) => (SpecPath.push path (toString i), n)
  | .mapping _ entries _ => entries.filterMap fun (k, v) =>
    match k with
    | .scalar _ text _ => some (SpecPath.push path text, v)
    | _ => none

/-- Enters the nodes on a stack and all their parts. -/
def walk : Nat → List (String × Yaml.Node) → SourceMap → SourceMap
  | 0, _, m => m
  | _, [], m => m
  | fuel + 1, (path, n) :: pending, m =>
    walk fuel ((parts path n).reverse ++ pending) (m.enter path (positionOf n))

/-- The map of a tree. Every node of it is taken from the stack once. -/
def ofNode (root : Yaml.Node) : SourceMap := walk root.size [("", root)] []

/-- The map of a text; one that is not well-formed, or empty, has no entries. -/
def ofText (text : String) : Except Yaml.Fault SourceMap :=
  match Yaml.Node.ofText text with
  | .ok (some root) => .ok (ofNode root)
  | .ok none | .error .malformed => .ok []
  | .error fault => .error fault

end SourceMap

end ActorSpec
