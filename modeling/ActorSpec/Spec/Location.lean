import ActorSpec.Files.Path
import ActorSpec.Spec.SourceMap

/-!
# Locations

Where a value of a spec file is written, as the suffix of a message: the file with line and column as
far as they are known, and the path of the value.
-/

namespace ActorSpec

structure Location where
  file : Option FilePath
  path : Option String
  position : Position

namespace Location

/-- The location of a path in a source map. The empty path is not looked up. -/
def find (positions : SourceMap) (path : Option String) (file : Option FilePath) : Location where
  file := file
  path := path
  position :=
    ((path.filter (· != "")).bind positions.find?).getD ⟨none, none⟩

/-- The file with line and column, empty without a file. -/
def place (cwd : List String) (l : Location) : String :=
  match l.file with
  | none => ""
  | some file =>
    let numbers := [l.position.line, l.position.column].filterMap id
    String.intercalate ":" ((file.relativeTo cwd).text :: numbers.map toString)

/-- The location behind a message, in parentheses, if there is anything to say. -/
def suffix (cwd : List String) (l : Location) : String :=
  let path := match l.path.filter (· != "") with
    | some path => "at " ++ path
    | none => ""
  let parts := [l.place cwd, path].filter (· != "")
  if parts.isEmpty then "" else " (" ++ String.intercalate ", " parts ++ ")"

end Location

end ActorSpec
