import ActorSpec.Check.References
import ActorSpec.Document.All
import ActorSpec.Failure
import ActorSpec.Project.ActorId
import ActorSpec.Settings

/-!
# Projects

A project is a config with the places of its documents: the actor directory for the four documents,
and the base directory for the input of a local run. Nothing is checked on the way; a dry run writes
nothing.
-/

namespace ActorSpec

structure Project where
  config : Value
  base : FilePath
  actorDirectory : FilePath
  inputFile : String
  dryRun : Bool
  verbose : Bool

/-- What may be said about a project besides its config. -/
structure ProjectOptions where
  base : Option String
  actorDirectory : Option String
  dryRun : Bool
  verbose : Bool

namespace Project

/-- The project of a config. Its base directory is the working directory, by its whole path, and the
name of its actor directory that of the settings, unless the options name others. -/
def ofConfig (settings : Settings) (cwd : Place) (options : ProjectOptions) (config : Value) :
    Project :=
  let base := (options.base.map FilePath.ofText).getD ⟨.slash, cwd⟩
  let name := (options.actorDirectory.filter (· != "")).getD settings.actorDirectory
  { config, base
    actorDirectory := base.child name
    inputFile := settings.inputFile
    dryRun := options.dryRun
    verbose := options.verbose }

/-! ## Checks -/

def validate (p : Project) : Work Failure Verdict := do
  return .ofIssues (← (Check.run p.config).adapt .remark)

def ensureValid (p : Project) : Work Failure Verdict := do
  let verdict ← p.validate
  if verdict.valid then return verdict else throw (.invalid verdict.errors)

def datasetFields (p : Project) : Work Failure Aggregate := (Aggregate.make p.config).adapt .remark

/-! ## Documents -/

/-- Writes documents into the actor directory, one after the other. -/
def writeAll (p : Project) (files : List (DocumentFile × Value)) : Work Failure Unit :=
  files.forM fun (file, v) =>
    (Work.writeDocument (p.actorDirectory.child file.name) v).adapt .output

/-- Makes the four documents, and writes them unless this is a dry run. All that is to be said can be
said. -/
def generateSchemas (p : Project) : Work Failure Documents := do
  let all := Aggregate.ofConfig p.config
  Work.logAll all.records
  Work.logAll (all.collisions.map fun c => Channel.project.record .warning c.message)
  Work.logAll (Documents.records p.verbose p.config)
  let documents := Documents.ofConfig p.config
  if !p.dryRun then
    (Work.ensureDirectory p.actorDirectory).adapt .directory
    p.writeAll documents.files
    Work.log (Channel.project.record .info
      ("Generated all actor schemas in " ++ p.actorDirectory.text))
  return documents

/-- What is said while the documents are made: every overwrite of a dataset field twice. -/
def remarks (p : Project) : List Remark :=
  let all := Aggregate.ofConfig p.config
  all.remarks
    ++ all.collisions.map (fun c => ⟨c.named, some (Channel.project.record .warning c.message)⟩)
    ++ Documents.remarks p.verbose p.config

/-- Makes the four documents of any config. -/
def generate (p : Project) : Work Failure Documents := do
  (Work.ensureSayable p.remarks).adapt .remark
  p.generateSchemas

/-- The file for the input, that of the project unless there is a path. -/
def inputPath (p : Project) (path : String) : FilePath :=
  if path = "" then p.base.child p.inputFile else .ofText path

/-- Makes the input of a local run, and writes it unless this is a dry run. -/
def generateInput (p : Project) (path : String) : Work Failure (Mapping Value) := do
  let input := DefaultInput.ofConfig p.config
  if !p.dryRun then
    let target := p.inputPath path
    (Work.writeDocument target (.mapping input)).adapt .output
    Work.log (Channel.project.record .info ("Generated default input file: " ++ target.text))
  return input

end Project

end ActorSpec
