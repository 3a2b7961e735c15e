import ActorSpec.Command.Run

/-!
# The program

Takes what a request can touch from the disk into a file tree, runs the request on it, and brings what
has changed back to the disk.
-/

namespace ActorSpec

/-! ## What a request touches -/

/-- The files that a request reads or writes. -/
def Request.paths (settings : Settings) (cwd : Place) : Request → List FilePath
  | .help _ => []
  | .generateSchemas spec base dryRun verbose =>
    let project := Project.ofConfig settings cwd ⟨base, none, dryRun, verbose⟩ .null
    .ofText spec :: [DocumentFile.manifest, .inputSchema, .datasetSchema, .outputSchema].map fun file =>
      project.actorDirectory.child file.name
  | .generateInput spec output dryRun verbose =>
    let project := Project.ofConfig settings cwd ⟨none, none, dryRun, verbose⟩ .null
    [.ofText spec, project.inputPath output]
  | .validate spec _ => [.ofText spec]

/-- The places that a path leads through, from the first to the last. -/
def FilePath.places (cwd : Place) (p : FilePath) : List Place :=
  let start := if p.root.absolute then [] else cwd
  let step := fun (places : List Place) (step : String) =>
    let place := (places.head?).getD start
    (if step = ".." then place.dropLast else place ++ [step]) :: places
  (p.steps.foldl step [start]).reverse

/-! ## The disk -/

def Place.text (place : Place) : String := "/" ++ String.intercalate "/" place

/-- What is at a place on the disk, if anything. -/
def nodeOnDisk? (place : Place) : IO (Option FileNode) := do
  try
    let path ← IO.FS.realPath (Place.text place)
    if ← path.isDir then return some .directory
    return some (.file (← IO.FS.readBinFile path))
  catch _ => return none

/-- The tree of the places that paths lead through. -/
def treeOnDisk (cwd : Place) (paths : List FilePath) : IO FileTree := do
  let places := (⟨.slash, cwd⟩ :: paths).flatMap (FilePath.places cwd)
  let nodes ← places.eraseDups.filterMapM fun place => do
    return (← nodeOnDisk? place).map (place, ·)
  return ⟨cwd, nodes⟩

/-- Brings a node to the disk unless it is there already. -/
def bring (before : FileTree) (place : Place) : FileNode → IO Unit
  | .directory =>
    if (before.node? place).isSome then pure () else IO.FS.createDir (Place.text place)
  | .file content =>
    match before.node? place with
    | some (.file old) => if old == content then pure () else IO.FS.writeBinFile (Place.text place) content
    | _ => IO.FS.writeBinFile (Place.text place) content

/-! ## Running -/

/-- A text from outside. -/
def taken (s : String) : String := String.ofList (Text.ofChars s.toList)

def environment : IO Environment :=
  Settings.variableNames.filterMapM fun name => do return (← IO.getEnv name).map (name, taken ·)

/-- Prints what a run has put out and gives its exit code. -/
def finish (run : Run) : IO UInt32 := do
  (← IO.getStdout).write (Text.bytes run.standardOutput)
  let errors ← IO.getStderr
  errors.write (Text.bytes run.standardError)
  match run.ending with
  | .exit code => return code.toUInt32
  | .failure failure =>
    errors.write (Text.bytes (failure.message ++ "\n"))
    return 1

def runOnDisk (words : List String) : IO UInt32 := do
  let words := words.map taken
  let settings := Settings.ofEnvironment (← environment) .strict
  let cwd := (FilePath.ofText (toString (← IO.currentDir))).steps
  let paths := match Request.ofWords settings words with
    | .ok request => request.paths settings cwd
    | .error _ => []
  let before ← treeOnDisk cwd paths
  let run := Run.ofWords settings words before
  run.files.nodes.forM fun (place, node) => bring before place node
  finish run

end ActorSpec

def main (words : List String) : IO UInt32 := ActorSpec.runOnDisk words
