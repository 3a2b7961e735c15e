import ActorSpec.Document.Manifest
import ActorSpec.Files.Document

/-!
# Actor ids

On the platform an actor goes by the name of its user, a tilde, and its own name, which is that of the
manifest in the actor directory.
-/

namespace ActorSpec

/-- Why a manifest gives no name. -/
inductive ManifestFault where
  | load (fault : LoadFault)
  | notAMapping (kind : String)

def ManifestFault.message : ManifestFault → String
  | .load fault => fault.message
  | .notAMapping kind => "a manifest is a mapping, not of kind " ++ kind

/-- The manifest in a directory. -/
def manifestPath (directory : FilePath) : FilePath := directory.child DocumentFile.manifest.name

/-- The name in a manifest file, unless it is missing or empty. -/
def FileTree.actorName (t : FileTree) (path : FilePath) : Except ManifestFault (Option Value) :=
  match t.readDocument path with
  | .error fault => .error (.load fault)
  | .ok (.mapping entries) => .ok (Mapping.declared? entries "name")
  | .ok v => .error (.notAMapping v.kindName)

/-- The id that is given, if it is not empty; or else the one made from a user and the manifest, if
both have a name. A manifest that cannot be read is logged; a path that cannot even be asked about is a
failure. -/
def actorId (provided user : Option String) (directory : FilePath) :
    Work FileFault (Option String) := do
  match provided.filter (· != "") with
  | some id => return some id
  | none =>
    let t ← Work.files
    let path := manifestPath directory
    if (← Work.ofResult id (t.ask path)).isNone then return none
    match t.actorName path, user.filter (· != "") with
    | .error fault, _ =>
      Work.log (Channel.output.record .error ("Error reading " ++ path.text ++ ": " ++ fault.message))
      return none
    | .ok (some name), some user =>
      let id := user ++ "~" ++ name.display
      Work.log (Channel.output.record .info
        ("Using actor ID: " ++ id ++ " (derived from actor name in " ++ path.text ++ ")"))
      return some id
    | .ok _, _ => return none

end ActorSpec
