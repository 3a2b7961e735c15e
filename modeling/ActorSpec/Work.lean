import ActorSpec.Files.Tree
import ActorSpec.Log.Output
import ActorSpec.Log.Remark

/-!
# Work

Work writes files, logs and prints, and may fail with a fault of its own kind. A failure undoes
nothing: the files and the output are those of the moment in which it arose.
-/

namespace ActorSpec

/-- The files, and everything put out so far, the earliest first. -/
structure Workspace where
  files : FileTree
  output : List Output

abbrev Work (ε α : Type) := ExceptT ε (StateM Workspace) α

namespace Work

def put (o : Output) : Work ε Unit := modify fun w => { w with output := w.output ++ [o] }

def log (r : Record) : Work ε Unit := put (.record r)

def logAll (records : List Record) : Work ε Unit := records.forM log

/-- Stops at the first remark that cannot be made, with those in front of it logged. Where all can be
made, nothing happens here. -/
def ensureSayable (remarks : List Remark) : Work RemarkFault Unit :=
  if remarks.all (·.isSayable) then pure ()
  else do
    logAll (Remark.records (remarks.takeWhile (·.isSayable)))
    throw .longInteger

def print (text : String) : Work ε Unit := put (.printed text)

def files : Work ε FileTree := return (← get).files

def setFiles (files : FileTree) : Work ε Unit := modify fun w => { w with files }

/-- A result that is there already, its fault as one of the work. -/
def ofResult (fault : δ → ε) : Except δ α → Work ε α
  | .ok a => pure a
  | .error e => throw (fault e)

/-- The result of a run, and the workspace after it. -/
def runOn (w : Workspace) (m : Work ε α) : Except ε α × Workspace := StateT.run (ExceptT.run m) w

end Work

end ActorSpec
