import ActorSpec.Config
import ActorSpec.Log.Remark

/-!
# The input schema

One property for every input field. A property has the four inferred attributes and, behind them, the
constraints that the field declares.
-/

namespace ActorSpec

structure InputProperty where
  title : Value
  type : Value
  description : Value
  editor : Value
  constraints : List (String × Value)

structure InputSchema where
  title : Value
  properties : Mapping InputProperty
  required : List Value

namespace InputProperty

def ofField (name : Value) (d : Declaration) : InputProperty :=
  let descriptor := Declaration.describe d name
  { title := descriptor.title
    type := Declaration.inputType d
    description := descriptor.description
    editor := descriptor.editor
    constraints := descriptor.constraints }

def toValue (p : InputProperty) : Value := .ofFields ([
  ("title", p.title),
  ("type", p.type),
  ("description", p.description),
  ("editor", p.editor)] ++ p.constraints)

end InputProperty

namespace InputSchema

/-- The title of the actor, else the one made from its name. -/
def titleOfActor (config : Value) : Value :=
  let actor := Config.actor config
  match actor.declared? "title", actor.declared? "name" with
  | some title, _ => title
  | none, some name => .str (titleOf name)
  | none, none => .str "Actor Input"

def ofConfig (config : Value) : InputSchema where
  title := titleOfActor config
  properties := (Config.inputFields config).map fun (name, d) => (name, .ofField (.scalar name) d)
  required := Config.requiredInputs config

/-- What is said while the schema is made. The name of the actor is needed for a title only. -/
def remarks (config : Value) : List Remark :=
  let actor := Config.actor config
  (Config.inputFields config).keys.map (fun name => .naming (.scalar name))
    ++ (if (actor.declared? "title").isSome then []
      else ((actor.declared? "name").map Remark.naming).toList)

def toValue (s : InputSchema) : Value := .ofFields [
  ("title", s.title),
  ("type", .str "object"),
  ("schemaVersion", .int 1),
  ("properties", .mapping (s.properties.mapValues InputProperty.toValue)),
  ("required", .list s.required)]

end InputSchema

end ActorSpec
