import ActorSpec.Check.Categories
import ActorSpec.Check.References
import ActorSpec.Files.Tree
import ActorSpec.Lint.Issues
import ActorSpec.Spec.Location
import ActorSpec.Spec.Content

/-!
# Reports

The report on a spec lists everything that the checks find, each issue with the place in the file that
it is about. Errors are the issues of the cross references and what is wrong with the store
categories; warnings are those of the lint and the collisions of dataset fields.
-/

namespace ActorSpec

/-- A spec with the file that it was loaded from, and its `schemas` section. -/
structure LoadedSpec where
  file : String
  spec : Spec
  schemas : Value

namespace LoadedSpec

/-- A message with the location of a path of the spec. -/
def located (l : LoadedSpec) (cwd : Place) (message path : String) : String :=
  message ++ (Location.find l.spec.positions (some path) (some (.ofText l.file))).suffix cwd

/-- The message of an issue in the `schemas` section with its location. -/
def describe (l : LoadedSpec) (cwd : Place) (issue : Issue) : String :=
  l.located cwd issue.message (SpecPath.inSchemas issue.path)

/-- The issues of the cross references. -/
def referenceErrors (l : LoadedSpec) (cwd : Place) : List String :=
  (Check.issues l.schemas).map (l.describe cwd)

/-- What is wrong with the store categories, if the spec has any. -/
def categoryFault? (l : LoadedSpec) : Option Categories.Fault :=
  match Mapping.get? l.spec.content (.str "actor_details") with
  | some (.mapping details) => (Mapping.get? details (.str "categories")).bind Categories.check
  | _ => none

def categoryErrors (l : LoadedSpec) (cwd : Place) : List String :=
  (l.categoryFault?.map fun fault =>
    l.located cwd fault.message "/actor_details/categories").toList

def lintWarnings (l : LoadedSpec) (cwd : Place) : List String :=
  (Lint.issues l.schemas).map (l.describe cwd)

def collisionWarnings (l : LoadedSpec) : List String :=
  (Aggregate.ofConfig l.schemas).collisions.map (·.message)

end LoadedSpec

structure Report where
  errors : List String
  warnings : List String

namespace Report

def ofSpec (l : LoadedSpec) (cwd : Place) : Report where
  errors := l.referenceErrors cwd ++ l.categoryErrors cwd
  warnings := l.lintWarnings cwd ++ l.collisionWarnings

/-- What is logged while a report is made: the dataset fields are merged for the checks and for the
collisions. -/
def records (l : LoadedSpec) : List Record :=
  Check.records l.schemas ++ (Aggregate.ofConfig l.schemas).records

/-- Everything that is said while a report is made. -/
def remarks (l : LoadedSpec) : List Remark :=
  Check.remarks l.schemas ++ Lint.remarks l.schemas ++ (Aggregate.ofConfig l.schemas).remarks
    ++ (l.categoryFault?.map fun fault => ⟨fault.named, none⟩).toList

/-- The report as a document. -/
def toValue (r : Report) (file : String) : Value := .ofFields [
  ("spec", .str file),
  ("errors", .list (r.errors.map .str)),
  ("warnings", .list (r.warnings.map .str))]

/-- The report line by line. -/
def lines (r : Report) : List String :=
  r.errors.map ("  ERROR: " ++ ·) ++ r.warnings.map ("  WARNING: " ++ ·)

end Report

end ActorSpec
