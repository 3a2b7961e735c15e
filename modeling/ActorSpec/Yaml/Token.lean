import ActorSpec.Yaml.Cursor

/-!
# Tokens

The pieces of YAML text, with their marks. Besides what is written, tokens tell where blocks begin and
end and which nodes are keys, so that structure can be read off them without looking at columns.
-/

namespace ActorSpec.Yaml

/-- A tag as written: the handle that its prefix is looked up by, if it has one, and the rest. -/
structure TagName where
  handle : Option String
  suffix : String

inductive Directive where
  | version (major : Nat)
  | tag (handle : String) (expansion : String)
  | other

inductive TokenKind where
  | directive (d : Directive)
  | documentStart
  | documentEnd
  | streamEnd
  | blockSequenceStart
  | blockMappingStart
  | blockEnd
  | flowSequenceStart
  | flowSequenceEnd
  | flowMappingStart
  | flowMappingEnd
  | blockEntry
  | flowEntry
  | key
  | value
  | reference (name : String)
  | anchor (name : String)
  | tag (name : TagName)
  | scalar (text : String) (plain : Bool)

structure Token where
  kind : TokenKind
  start : Mark
  stop : Mark

end ActorSpec.Yaml
