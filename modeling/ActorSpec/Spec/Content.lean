import ActorSpec.Spec.SourceMap
import ActorSpec.Value.Display
import ActorSpec.Yaml.Node.Data

/-!
# The content of a spec

A spec is a mapping. An empty text, or one that holds a null, is an empty spec; any other text that is
not a mapping is refused.
-/

namespace ActorSpec

/-- Why a text is not the content of a spec. The origin says where the text comes from. -/
inductive ContentFault where
  | unparsable (origin : String)
  | notAMapping (origin : String) (kind : String)
  | scalar (fault : Yaml.Fault)

/-- A spec with the positions of its values. -/
structure Spec where
  content : Mapping Value
  positions : SourceMap

namespace Spec

/-- The data that a text holds; null when there is nothing in it. -/
def dataOf (text : String) : Except Yaml.Fault Value := do
  match ← Yaml.Node.ofText text with
  | some root => root.data
  | none => return .null

/-- The content of a spec. -/
def contentOf (text origin : String) : Except ContentFault (Mapping Value) :=
  match dataOf text with
  | .ok (.mapping entries) => .ok entries
  | .ok .null => .ok []
  | .ok v => .error (.notAMapping origin v.kindName)
  | .error .malformed => .error (.unparsable origin)
  | .error fault => .error (.scalar fault)

/-- The content of a spec and the positions of its values. -/
def ofText (text origin : String) : Except ContentFault Spec := do
  let content ← contentOf text origin
  let positions ← (SourceMap.ofText text).mapError .scalar
  return ⟨content, positions⟩

end Spec

def ContentFault.message : ContentFault → String
  | .unparsable origin => "Failed to parse YAML " ++ origin ++ ": " ++ Yaml.Fault.malformed.message
  | .notAMapping origin kind =>
    "Spec " ++ origin ++ " must contain a mapping at the top level, got " ++ kind
  | .scalar fault => fault.message

end ActorSpec
