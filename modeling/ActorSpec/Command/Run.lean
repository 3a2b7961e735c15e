import ActorSpec.Command.Report
import ActorSpec.Command.Request
import ActorSpec.Project

/-!
# Running a command

A run reads the spec, does what is asked for, and ends with an exit code: 0 when all is well, 1 when
the spec is at fault or a document is not written, 2 when the command line is misused. A failure that
is not foreseen ends it without one.
-/

namespace ActorSpec

namespace Request

/-- The spec in a file with its `schemas` section, which must not be empty. -/
def loadSpec (settings : Settings) (file : String) : Work Failure LoadedSpec := do
  let load := (SpecStore.empty settings.cacheEnabled).load (← Work.files) (.ofText file)
  Work.logAll load.records
  let spec ← Work.ofResult .spec load.result
  match Mapping.declared? spec.content "schemas" with
  | none => throw .noSchemas
  | some schemas => return ⟨file, spec, schemas⟩

/-- Prints a line, if the console takes it. -/
def printLine (console : Console) (line : String) : Work Failure Unit :=
  match console.fault? line with
  | none => Work.print (line ++ "\n")
  | some fault => throw (.console fault)

/-- Prints documents in place of writing them, each under its title if it has one. -/
def preview (console : Console) (heading : String) (documents : List (Option String × Value)) :
    Work Failure Unit := do
  printLine console ("\n=== DRY RUN - " ++ heading ++ " ===\n")
  documents.forM fun (title, v) => do
    title.forM fun title => printLine console ("--- " ++ title ++ " ---")
    printLine console (← Work.ofResult .document (Json.write .unicode v))
    printLine console ""
  printLine console "Dry run mode - no files written. Use without --dry-run to write files."

/-! ## The three commands -/

/-- Logs the issues that keep a spec from being generated. -/
def refuse (errors : List String) : Work ε Unit := do
  Work.log (Channel.command.record .error "Schema validation errors:")
  Work.logAll (errors.map fun e => Channel.command.record .error ("  - " ++ e))

def runGenerateSchemas (settings : Settings) (file : String) (base : Option String)
    (dryRun verbose : Bool) : Work Failure Nat := do
  let l ← loadSpec settings file
  let cwd := (← Work.files).cwd
  let project := Project.ofConfig settings cwd ⟨base, none, dryRun, verbose⟩ l.schemas
  let issues ← (Check.run l.schemas).adapt .remark
  if !issues.isEmpty then
    refuse (issues.map (l.describe cwd))
    return 1
  let documents ← project.generate
  if dryRun then
    preview settings.console "Generated Schemas" (documents.files.map fun (file, v) => (some file.name, v))
  return 0

def runGenerateInput (settings : Settings) (file output : String) (dryRun verbose : Bool) :
    Work Failure Nat := do
  let l ← loadSpec settings file
  let cwd := (← Work.files).cwd
  let project := Project.ofConfig settings cwd ⟨none, none, dryRun, verbose⟩ l.schemas
  let input ← project.generateInput output
  if dryRun then preview settings.console "Generated INPUT.json" [(none, .mapping input)]
  return 0

def runValidate (settings : Settings) (file : String) (format : ReportFormat) :
    Work Failure Nat := do
  let l ← loadSpec settings file
  let report := Report.ofSpec l (← Work.files).cwd
  (Work.ensureSayable (Report.remarks l)).adapt .remark
  Work.logAll (Report.records l)
  match format with
  | .json =>
    printLine settings.console (← Work.ofResult .document (Json.write .ascii (report.toValue file)))
  | .human => report.lines.forM (printLine settings.console)
  if !report.errors.isEmpty then return 1
  if format = .human then printLine settings.console "Validation succeeded with no errors."
  return 0

/-! ## Any request -/

def usage : String := "usage: actor-schema-designer [gen-schemas | gen-input | validate] ..."

def work (settings : Settings) : Request → Work Failure Nat
  | .help onCommand => do
    if onCommand then Work.ofResult .help (Help.check settings)
    printLine settings.console usage
    return 0
  | .generateSchemas spec base dryRun verbose =>
    runGenerateSchemas settings spec base dryRun verbose
  | .generateInput spec output dryRun verbose => runGenerateInput settings spec output dryRun verbose
  | .validate spec format => runValidate settings spec format

/-- What the message of a failure begins with. -/
def failureHeading : Request → String
  | .help _ => "Failed"
  | .generateSchemas .. => "Failed to generate schemas"
  | .generateInput .. => "Failed to generate input file"
  | .validate .. => "Failed to validate spec"

/-- Debug messages are shown on request, and never by a validation. -/
def isVerbose : Request → Bool
  | .generateSchemas _ _ _ verbose | .generateInput _ _ _ verbose => verbose
  | .help _ | .validate .. => false

/-- The work of a request; a failure that is foreseen is logged and gives the exit code 1. -/
def exitCode (settings : Settings) (r : Request) : Work Failure Nat := do
  try r.work settings
  catch failure =>
    if failure.isForeseen then
      Work.log (Channel.command.record .error (r.failureHeading ++ ": " ++ failure.message))
      return 1
    else throw failure

end Request

/-! ## Runs -/

inductive Ending where
  | exit (code : Nat)
  | failure (failure : Failure)

/-- A run that is over: the files it leaves, what it has put out, and how it ended. -/
structure Run where
  files : FileTree
  standardOutput : String
  standardError : String
  ending : Ending

namespace Run

/-- The run of a request. -/
def ofRequest (settings : Settings) (r : Request) (files : FileTree) : Run :=
  let (result, w) := (r.exitCode settings).runOn ⟨files, []⟩
  let routing := settings.routing r.isVerbose
  { files := w.files
    standardOutput := Output.text settings.console routing .standardOutput w.output
    standardError := Output.text settings.console routing .standardError w.output
    ending := match result with
      | .ok code => .exit code
      | .error failure => .failure failure }

/-- The run of a command line. -/
def ofWords (settings : Settings) (words : List String) (files : FileTree) : Run :=
  match Request.ofWords settings words with
  | .ok request => ofRequest settings request files
  | .error fault => ⟨files, "", fault.message ++ "\n", .exit 2⟩

end Run

end ActorSpec
