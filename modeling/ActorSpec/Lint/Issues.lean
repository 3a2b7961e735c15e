import ActorSpec.Check.References
import ActorSpec.Lint.Bundled

/-!
# Lint

The documents are made from any config, with malformed sections taken as empty. The lint reports the
shapes that are passed over in silence that way, ordered by path. It gates nothing.
-/

namespace ActorSpec.Lint

/-- Lexicographic order, items by code point. -/
def pathLe : List String → List String → Bool
  | [], _ => true
  | _ :: _, [] => false
  | a :: as, b :: bs => if a = b then pathLe as bs else decide (a < b)

def tokens (v : Violation) : List String := v.path.map Step.display

def issueOf (v : Violation) : Issue :=
  let path := SpecPath.join "" (tokens v)
  { message := (if path = "" then "/" else path) ++ ": " ++ v.message, path }

/-- The issues of a config against a shape, those of one path in the order of the shape's rules. A
null config has none. -/
def issuesOf (shape : Shape) : Value → List Issue
  | .null => []
  | config => ((shape.violations config).mergeSort fun a b => pathLe (tokens a) (tokens b)).map issueOf

def issues (config : Value) : List Issue := issuesOf Bundled.config config

/-- What the issue of a violation names: what is at fault, and the keys on the way to it. -/
def remark (v : Violation) : Remark where
  named := v.culprit :: v.path.filterMap fun
    | .entry key => some (.scalar key)
    | .index _ => none
  record? := none

/-- Everything that the lint says of a config; a null config has no issues. -/
def remarks : Value → List Remark
  | .null => []
  | config => (Bundled.config.violations config).map remark

/-- Runs the lint. -/
def run (config : Value) : Work RemarkFault (List Issue) := do
  Work.ensureSayable (remarks config)
  return issues config

end ActorSpec.Lint
