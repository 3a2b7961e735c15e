import ActorSpec.Lint.Shape

/-!
# The shape of a config

The bundled schema: the shape that the `schemas` section of a spec should have, and its document.
-/

namespace ActorSpec

structure Schema where
  dialect : String
  id : String
  title : String
  description : String
  root : Shape
  definitions : List (String × Shape)

/-- The document of a schema, the definitions that its shapes name at the end. -/
def Schema.toValue (s : Schema) : Value := .ofFields ([
  ("$schema", .str s.dialect),
  ("$id", .str s.id),
  ("title", .str s.title),
  ("description", .str s.description)]
  ++ ruleMembers s.root
  ++ [("definitions", .ofFields (s.definitions.map fun d => (d.1, Shape.toValue d.2)))])

namespace Bundled

def text : Shape := [.type [.string]]

def flag : Shape := [.type [.boolean]]

def number : Shape := [.type [.number]]

def count : Shape := [.type [.integer], .notNegative]

def sectionOf (rules : List Rule) : Shape := .type [.object, .null] :: rules

def commonField : Shape := sectionOf [
  .properties [
    ("title", text),
    ("description", text),
    ("desc", text),
    ("type", [.type [.string],
      .oneOf ["string", "integer", "number", "boolean", "array", "object"]]),
    ("format", text),
    ("array", flag)]]

def inputField : Shape := [
  .allOf [[.named "commonField" commonField]],
  .properties [
    ("editor", text),
    ("sectionCaption", text),
    ("group", text),
    ("minLength", count),
    ("maxLength", count),
    ("minimum", number),
    ("maximum", number),
    ("enum", [.type [.array]])]]

def datasetField : Shape := [
  .allOf [[.named "commonField" commonField]],
  .properties [
    ("label", text),
    ("itemType", text),
    ("nullable", flag)]]

def view : Shape := sectionOf [
  .properties [
    ("title", text),
    ("component", text),
    ("fields", [.type [.array], .items text])]]

def actor : Shape := sectionOf [
  .properties [
    ("name", [.type [.string], .minLength 1]),
    ("title", text),
    ("version", text),
    ("build_tag", text),
    ("environment_variables", sectionOf [.entries [.type [.string, .number, .boolean]]])]]

def input : Shape := sectionOf [
  .properties [
    ("fields", sectionOf [.entries [.named "inputField" inputField]]),
    ("required", [.type [.array, .null], .items text]),
    ("defaults", sectionOf [])]]

def dataset : Shape := sectionOf [
  .properties [
    ("fields", sectionOf [.entries [.named "datasetField" datasetField]]),
    ("field_groups", sectionOf [
      .entries (sectionOf [.entries [.named "datasetField" datasetField]])]),
    ("views", sectionOf [.entries [.named "view" view]])]]

def output : Shape := sectionOf [
  .properties [
    ("title", text),
    ("description", text),
    ("properties", sectionOf [])]]

def config : Shape := [
  .type [.object],
  .properties [
    ("actor", actor),
    ("input", input),
    ("dataset", dataset),
    ("output", output)]]

def schema : Schema where
  dialect := "http://json-schema.org/draft-07/schema#"
  id := "actor_schema_designer/schemas_config.json"
  title := "Unified actor schemas config"
  description := "Shape of the `schemas` section of a websy-spec.yml file."
  root := config
  definitions := [
    ("commonField", commonField),
    ("inputField", inputField),
    ("datasetField", datasetField),
    ("view", view)]

end Bundled

end ActorSpec
