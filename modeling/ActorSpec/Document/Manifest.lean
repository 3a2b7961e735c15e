import ActorSpec.Config

/-!
# The actor manifest

The document that names the actor and points to the other three.
-/

namespace ActorSpec

/-- The files of the generated documents, in the order in which they are written. -/
inductive DocumentFile where
  | manifest
  | inputSchema
  | datasetSchema
  | outputSchema
deriving DecidableEq

def DocumentFile.name : DocumentFile → String
  | .manifest => "actor.json"
  | .inputSchema => "input_schema.json"
  | .datasetSchema => "dataset_schema.json"
  | .outputSchema => "output_schema.json"

structure Manifest where
  name : Value
  version : Value
  buildTag : Value
  environmentVariables : Value

namespace Manifest

def ofConfig (config : Value) : Manifest :=
  let actor := Config.actor config
  { name := (actor.declared? "name").getD (.str "unnamed-actor")
    version := (actor.declared? "version").getD (.str "0.1")
    buildTag := (actor.declared? "build_tag").getD (.str "latest")
    environmentVariables := (actor.declared? "environment_variables").getD (.mapping []) }

/-- A file beside the manifest. -/
def beside (file : DocumentFile) : Value := .str ("./" ++ file.name)

def toValue (m : Manifest) : Value := .ofFields [
  ("actorSpecification", .int 1),
  ("name", m.name),
  ("version", m.version),
  ("buildTag", m.buildTag),
  ("environmentVariables", m.environmentVariables),
  ("input", beside .inputSchema),
  ("output", beside .outputSchema),
  ("storages", .ofFields [("dataset", beside .datasetSchema)])]

end Manifest

end ActorSpec
