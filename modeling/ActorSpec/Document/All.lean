import ActorSpec.Document.DatasetSchema
import ActorSpec.Document.DefaultInput
import ActorSpec.Document.Manifest
import ActorSpec.Document.OutputSchema

/-!
# The four documents of a config

All four are made from the config alone, whether or not its references are sound.
-/

namespace ActorSpec

structure Documents where
  manifest : Manifest
  inputSchema : InputSchema
  datasetSchema : DatasetSchema
  outputSchema : OutputSchema

namespace Documents

def ofConfig (config : Value) : Documents where
  manifest := .ofConfig config
  inputSchema := .ofConfig config
  datasetSchema := .ofConfig config
  outputSchema := .ofConfig config

/-- The content of each file, in the order in which the files are written. -/
def files (d : Documents) : List (DocumentFile × Value) := [
  (.manifest, d.manifest.toValue),
  (.inputSchema, d.inputSchema.toValue),
  (.datasetSchema, d.datasetSchema.toValue),
  (.outputSchema, d.outputSchema.toValue)]

end Documents

/-- What is logged while the documents of a config are made. -/
def Documents.records (verbose : Bool) (config : Value) : List Record :=
  let all := Aggregate.ofConfig config
  all.records ++ (if verbose then DatasetSchema.warnings all config else [])

/-- Everything that is said while they are made. -/
def Documents.remarks (verbose : Bool) (config : Value) : List Remark :=
  let all := Aggregate.ofConfig config
  InputSchema.remarks config ++ all.remarks ++ DatasetSchema.remarks all verbose config

/-- Makes the documents of a config. -/
def Documents.make (verbose : Bool) (config : Value) : Work RemarkFault Documents := do
  Work.ensureSayable (remarks verbose config)
  Work.logAll (records verbose config)
  return ofConfig config

end ActorSpec
