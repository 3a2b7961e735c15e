import ActorSpec.Config

/-!
# The output schema

Points to the items of the default dataset unless the spec says otherwise.
-/

namespace ActorSpec

structure OutputSchema where
  title : Value
  description : Value
  properties : Value

namespace OutputSchema

/-- One property that links to the items of the default dataset. -/
def defaultProperties : Value := .ofFields [
  ("results", .ofFields [
    ("type", .str "string"),
    ("title", .str "Results"),
    ("template", .str "\x7b\x7blinks.apiDefaultDatasetUrl\x7d\x7d/items")])]

/-- Null, false, zero and the empty text leave the properties out; an empty list or mapping is kept
as it is. -/
def isUnset : Value → Bool
  | .scalar s => !s.truthy
  | _ => false

def ofConfig (config : Value) : OutputSchema :=
  let output := Config.output config
  let properties := output.field "properties"
  { title := (output.declared? "title").getD (.str "Scraper Results")
    description := (output.declared? "description").getD (.str "Scraper Results")
    properties := if isUnset properties then defaultProperties else properties }

def toValue (s : OutputSchema) : Value := .ofFields [
  ("actorOutputSchemaVersion", .int 1),
  ("title", s.title),
  ("description", s.description),
  ("properties", s.properties)]

end OutputSchema

end ActorSpec
