import ActorSpec.Command.Help
import ActorSpec.Files.Document
import ActorSpec.Spec.Store

/-!
# Failures

Why work on a project ends early. Those that say what is wrong with the spec, or which document is not
written, are meant for the user; the others are not foreseen.
-/

namespace ActorSpec

inductive Failure where
  | spec (fault : SpecFault)
  | noSchemas
  | invalid (errors : List String)
  | output (fault : OutputFault)
  | directory (fault : FileFault)
  | document (fault : Json.WriteFault)
  | remark (fault : RemarkFault)
  /-- A text that the standard output does not take. -/
  | console (fault : Text.EncodeFault)
  | help (fault : HelpFault)

namespace Failure

def message : Failure → String
  | .spec fault => fault.message
  | .noSchemas => "Spec must contain a \x60schemas\x60 section."
  | .invalid errors => "Schema config has " ++ toString errors.length ++ " validation error(s)"
  | .output fault => fault.message
  | .directory fault => fault.message
  | .document fault => fault.message
  | .remark fault => fault.message
  | .console fault => fault.message
  | .help fault => fault.message

/-- The failures that are foreseen. -/
def isForeseen : Failure → Bool
  | .spec (.unreachable _) | .spec .undecodable | .spec (.content (.scalar _)) | .directory _
  | .document _ | .remark _ | .console _ | .help _ => false
  | .spec _ | .noSchemas | .invalid _ | .output _ => true

end Failure

end ActorSpec
