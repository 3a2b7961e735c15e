import ActorSpec.Dataset.Aggregate

/-!
# The dataset schema

One property for every dataset field, none of them required, and one entry for every view. A view
keeps its list of fields as declared and displays those of them that the dataset has; the others may
be logged.
-/

namespace ActorSpec

structure FieldSchema where
  type : Value
  nullable : Bool
  title : Value
  description : Value
  items : Option Value

structure ViewProperty where
  label : Value
  format : Value

structure View where
  title : Value
  fields : List Value
  component : Value
  properties : Mapping ViewProperty

structure DatasetSchema where
  fields : Mapping FieldSchema
  views : Mapping View

namespace FieldSchema

/-- Only a literal false makes a field not nullable. -/
def isNullable : Value → Bool
  | .scalar (.bool false) => false
  | _ => true

def isArray : Value → Bool
  | .scalar (.str s) => s == "array"
  | _ => false

def ofField (name : Value) (d : Declaration) : FieldSchema :=
  let descriptor := Declaration.describe d name
  { type := descriptor.type
    nullable := isNullable (d.field "nullable")
    title := descriptor.title
    description := descriptor.description
    items := if isArray descriptor.type then some ((d.declared? "itemType").getD (.str "string"))
      else none }

def toValue (s : FieldSchema) : Value := .ofFields ([
  ("type", if s.nullable then .list [s.type, .str "null"] else s.type),
  ("title", s.title),
  ("description", s.description)]
  ++ s.items.toList.map fun type => ("items", .ofFields [("type", type)]))

end FieldSchema

def ViewProperty.toValue (p : ViewProperty) : Value :=
  .ofFields [("label", p.label), ("format", p.format)]

namespace View

/-- The declaration that a listed field has in the dataset. -/
def resolve? (all : Aggregate) : Value → Option (Scalar × Declaration)
  | .scalar name => (all.declarations.get? name).map (name, ·)
  | _ => none

def property (name : Scalar) (d : Declaration) : ViewProperty :=
  let descriptor := Declaration.describe d (.scalar name)
  ⟨descriptor.label, descriptor.format⟩

def ofConfig (all : Aggregate) (name : Value) (body : Value) : View where
  title := (body.asMapping.declared? "title").getD (.str (titleOf name))
  fields := Config.viewFields body
  component := (body.asMapping.declared? "component").getD (.str "table")
  properties := Mapping.ofEntries
    (((Config.viewFields body).filterMap (resolve? all)).map fun (name, d) => (name, property name d))

def danglingMessage (view field : Value) : String :=
  "Field '" ++ field.display ++ "' in view '" ++ view.display ++ "' not found in fields definition"

/-- The warnings about the listed fields that the dataset does not have. -/
def warnings (all : Aggregate) (name : Value) (body : Value) : List Record :=
  ((Config.viewFields body).filter fun field => (resolve? all field).isNone).map fun field =>
    Channel.datasetSchema.record .warning (danglingMessage name field)

/-- What is logged while a view is made. -/
def records (all : Aggregate) (verbose : Bool) (name : Value) (body : Value) : List Record :=
  if verbose then warnings all name body else []

/-- What is said of one listed field: a message if the dataset does not have it and messages are asked
for, and else its label. -/
def fieldRemarks (all : Aggregate) (verbose : Bool) (name field : Value) : List Remark :=
  if (resolve? all field).isSome then [.naming field]
  else if verbose then
    [⟨[field, name], some (Channel.datasetSchema.record .warning (danglingMessage name field))⟩]
  else []

/-- What is said while a view is made. The name of the view is needed for a title only. -/
def remarks (all : Aggregate) (verbose : Bool) (name : Value) (body : Value) : List Remark :=
  (Config.viewFields body).flatMap (fieldRemarks all verbose name)
    ++ (if (body.asMapping.declared? "title").isSome then [] else [.naming name])

/-- Makes a view, and logs the listed fields that the dataset does not have if that is asked for. -/
def make (all : Aggregate) (verbose : Bool) (name : Value) (body : Value) : Work RemarkFault View := do
  Work.ensureSayable (remarks all verbose name body)
  Work.logAll (records all verbose name body)
  return ofConfig all name body

def toValue (v : View) : Value := .ofFields [
  ("title", v.title),
  ("transformation", .ofFields [("fields", .list v.fields)]),
  ("display", .ofFields [
    ("component", v.component),
    ("properties", .mapping (v.properties.mapValues ViewProperty.toValue))])]

end View

namespace DatasetSchema

def ofFields (all : Aggregate) (config : Value) : DatasetSchema where
  fields := all.declarations.map fun (name, d) => (name, .ofField (.scalar name) d)
  views := (Config.views config).map fun (name, body) =>
    (name, .ofConfig all (.scalar name) body)

def ofConfig (config : Value) : DatasetSchema := ofFields (.ofConfig config) config

/-- The warnings about every view, in their order. -/
def warnings (all : Aggregate) (config : Value) : List Record :=
  (Config.views config).flatMap fun (name, body) => View.warnings all (.scalar name) body

/-- What is said while the schema is made. -/
def remarks (all : Aggregate) (verbose : Bool) (config : Value) : List Remark :=
  all.names.map (fun name => .naming (.scalar name))
    ++ (Config.views config).flatMap fun (name, body) => View.remarks all verbose (.scalar name) body

def toValue (s : DatasetSchema) : Value := .ofFields [
  ("actorSpecification", .int 1),
  ("fields", .ofFields [
    ("$schema", .str "http://json-schema.org/draft-07/schema#"),
    ("type", .str "object"),
    ("properties", .mapping (s.fields.mapValues FieldSchema.toValue))]),
  ("views", .mapping (s.views.mapValues View.toValue))]

end DatasetSchema

end ActorSpec
