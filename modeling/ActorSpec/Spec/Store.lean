import ActorSpec.Files.Tree
import ActorSpec.Log.Record
import ActorSpec.Spec.Content

/-!
# Spec files

A store loads specs from files. One that keeps specs gives the first spec that was loaded from a path
again, whatever the file holds by then, until it is cleared. Failures are not kept.
-/

namespace ActorSpec

/-- Why a file is not loaded as a spec. -/
inductive SpecFault where
  | unreachable (fault : FileFault)
  | missing (path : FilePath)
  | notAFile (path : FilePath)
  | undecodable
  | content (fault : ContentFault)

def SpecFault.message : SpecFault → String
  | .unreachable fault => fault.message
  | .missing path => "Spec file not found: " ++ path.text
  | .notAFile path => "Spec file is not a file: " ++ path.text
  | .undecodable => "not a UTF-8 text"
  | .content fault => fault.message

/-- The spec that is in a file now. -/
def FileTree.readSpec (t : FileTree) (p : FilePath) : Except SpecFault Spec :=
  match t.ask p with
  | .error fault => .error (.unreachable fault)
  | .ok none => .error (.missing p)
  | .ok (some .directory) => .error (.notAFile p)
  | .ok (some (.file content)) =>
    match decodeText? content with
    | none => .error .undecodable
    | some text => (Spec.ofText text ("file " ++ p.text)).mapError .content

structure SpecStore where
  keeps : Bool
  kept : List (FilePath × Spec)

/-- What a load gives: the store after it, what it logs, and its result. -/
structure SpecLoad where
  store : SpecStore
  records : List Record
  result : Except SpecFault Spec

namespace SpecStore

def empty (keeps : Bool) : SpecStore := ⟨keeps, []⟩

def clear (s : SpecStore) : SpecStore := { s with kept := [] }

def find? (s : SpecStore) (p : FilePath) : Option Spec := if s.keeps then s.kept.lookup p else none

def keep (s : SpecStore) (p : FilePath) (spec : Spec) : SpecStore :=
  if s.keeps then { s with kept := (p, spec) :: s.kept } else s

/-- What reading a file logs: nothing unless there is a file. -/
def readRecords (t : FileTree) (p : FilePath) : List Record :=
  if t.isFile p then [Channel.spec.record .debug ("Reading spec file: " ++ p.text)] else []

def load (s : SpecStore) (t : FileTree) (p : FilePath) : SpecLoad :=
  match s.find? p with
  | some spec => ⟨s, [Channel.spec.record .debug ("Using cached spec: " ++ p.text)], .ok spec⟩
  | none =>
    match t.readSpec p with
    | .ok spec => ⟨s.keep p spec, readRecords t p, .ok spec⟩
    | .error fault => ⟨s, readRecords t p, .error fault⟩

end SpecStore

end ActorSpec
