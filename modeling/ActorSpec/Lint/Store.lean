import ActorSpec.Files.Tree
import ActorSpec.Json.Reader
import ActorSpec.Json.Writer
import ActorSpec.Lint.Issues

/-!
# Schema files

Schemas are documents in one directory and go by the names of their files. A store keeps every schema
that it has loaded, by name, until it is cleared; failures are not kept. The program brings along a
directory with one schema, the shape of a config.
-/

namespace ActorSpec

/-- Why a schema is not loaded. -/
inductive SchemaFault where
  | unreachable (fault : FileFault)
  | missing (name : String) (path : FilePath)
  | malformed (path : FilePath)
  | longInteger (digits : Nat)
  | undecodable

def SchemaFault.message : SchemaFault → String
  | .unreachable fault => fault.message
  | .missing name path => "No bundled schema named '" ++ name ++ "' (" ++ path.text ++ ")"
  | .malformed path =>
    "Bundled schema " ++ path.text ++ " is not valid JSON: " ++ Json.ReadFault.malformed.message
  | .longInteger digits => Numeral.unreadMessage digits
  | .undecodable => "not a UTF-8 text"

/-- The file of a schema in a directory. -/
def schemaPath (directory : FilePath) (name : String) : FilePath := directory.child (name ++ ".json")

/-- The schema that is in a file now. -/
def FileTree.readSchema (t : FileTree) (directory : FilePath) (name : String) :
    Except SchemaFault Value :=
  let path := schemaPath directory name
  match t.ask path with
  | .error fault => .error (.unreachable fault)
  | .ok (some (.file content)) =>
    match decodeText? content with
    | none => .error .undecodable
    | some text => (Json.read text).mapError fun
      | .malformed => .malformed path
      | .longInteger digits => .longInteger digits
  | .ok _ => .error (.missing name path)

structure SchemaStore where
  directory : FilePath
  kept : List (String × Value)

/-- What a load gives: the store after it, and its result. -/
structure SchemaLoad where
  store : SchemaStore
  result : Except SchemaFault Value

namespace SchemaStore

def empty (directory : FilePath) : SchemaStore := ⟨directory, []⟩

def clear (s : SchemaStore) : SchemaStore := { s with kept := [] }

def find? (s : SchemaStore) (name : String) : Option Value := s.kept.lookup name

def load (s : SchemaStore) (t : FileTree) (name : String) : SchemaLoad :=
  match s.find? name with
  | some schema => ⟨s, .ok schema⟩
  | none =>
    match t.readSchema s.directory name with
    | .ok schema => ⟨{ s with kept := (name, schema) :: s.kept }, .ok schema⟩
    | .error fault => ⟨s, .error fault⟩

end SchemaStore

/-! ## The schemas that come along -/

namespace Bundled

def directory : FilePath := .ofText "/actor_schema_designer/schema"

/-- The name of the schema for configs. -/
def name : String := "schemas_config"

/-- The text of the schema for configs; there are no dates in it. -/
def document : String :=
  match Json.write .unicode schema.toValue with
  | .ok text => text
  | .error _ => ""

/-- The directory with the schema for configs, and nothing else. -/
def files : FileTree where
  cwd := directory.steps
  nodes := [
    (["actor_schema_designer"], .directory),
    (directory.steps, .directory),
    ((schemaPath directory name).steps, .file (Text.bytes document))]

end Bundled

/-- The issues of a config against the schema of a name. A null config is not held against any. -/
def Lint.issuesNamed (name : String) : Value → Except SchemaFault (List Issue)
  | .null => .ok []
  | config =>
    let path := schemaPath Bundled.directory name
    match Bundled.files.ask path with
    | .error fault => .error (.unreachable fault)
    | .ok (some (.file _)) => .ok (issues config)
    | .ok _ => .error (.missing name path)

end ActorSpec
