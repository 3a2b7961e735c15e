import ActorSpec.Json.Reader
import ActorSpec.Json.Writer
import ActorSpec.Spec.Location
import ActorSpec.Work

/-!
# Documents in files

A document is written with a line feed at its end, after the directories on the way to it. Opening the
file makes it or empties it, and only then is the text turned into bytes: a text that has none leaves an
empty file. Whatever else goes wrong does so before, and the file stays as it was.
-/

namespace ActorSpec

/-! ## Writing -/

/-- Why a document is not written. -/
inductive DocumentFault where
  | file (fault : FileFault)
  | value (fault : Json.WriteFault)
  | encoding (fault : Text.EncodeFault)
deriving DecidableEq

def DocumentFault.message : DocumentFault → String
  | .file fault => fault.message
  | .value fault => fault.message
  | .encoding fault => fault.message

/-- A document that is not written, and why. -/
structure OutputFault where
  path : FilePath
  reason : DocumentFault
deriving DecidableEq

def OutputFault.message (f : OutputFault) : String :=
  "Failed to write " ++ f.path.text ++ ": " ++ f.reason.message

namespace Work

/-- Makes a directory and those above it, unless the path leads to something already. -/
def ensureDirectory (p : FilePath) : Work FileFault Unit := do
  let t ← files
  if (← ofResult id (t.ask p)).isSome then return
  let (t, fault?) := t.makeDirectories p.steps.length p
  setFiles t
  match fault? with
  | some fault => throw fault
  | none => log (Channel.output.record .debug ("Created directory: " ++ p.text))

/-- Gives a file a new content, or makes a new one. -/
def storeBytes (p : FilePath) (content : ByteArray) : Work DocumentFault Unit := do
  setFiles (← ofResult .file ((← files).write p content))

/-- Puts a text into a file. One that has no bytes leaves the file empty. -/
def storeText (p : FilePath) (text : String) : Work DocumentFault Unit :=
  match Text.encode text with
  | .ok content => storeBytes p content
  | .error fault => do
    storeBytes p .empty
    throw (.encoding fault)

/-- Puts the text of a document into its file. -/
def storeDocument (p : FilePath) (v : Value) : Work DocumentFault Unit := do
  (ensureDirectory p.parent).adapt .file
  let text ← ofResult .value (Json.write .unicode v)
  storeText p (text ++ "\n")

/-- Writes a document and logs how that went. -/
def writeDocument (p : FilePath) (v : Value) : Work OutputFault Unit := do
  match ← (storeDocument p v).run with
  | .ok () => log (Channel.output.record .debug ("Written: " ++ p.text))
  | .error reason =>
    let location : Location := ⟨some p, none, ⟨none, none⟩⟩
    log (Channel.output.record .error ("Failed to write JSON file: " ++ p.text ++ ": "
      ++ reason.message ++ location.suffix (← files).cwd))
    throw ⟨p, reason⟩

end Work

/-! ## Reading -/

/-- Why a file has no document in it. -/
inductive LoadFault where
  | file (fault : FileFault)
  | undecodable
  | text (fault : Json.ReadFault)
deriving DecidableEq

def LoadFault.message : LoadFault → String
  | .file fault => fault.message
  | .undecodable => "not a UTF-8 text"
  | .text fault => fault.message

/-- The document in a file. -/
def FileTree.readDocument (t : FileTree) (p : FilePath) : Except LoadFault Value := do
  let content ← (t.read p).mapError .file
  match decodeText? content with
  | none => .error .undecodable
  | some text => (Json.read text).mapError .text

end ActorSpec
