import ActorSpec.Dataset.Aggregate
import ActorSpec.SpecPath

/-!
# Cross references

The checks that gate generation: the actor has a name, every field of a view is a dataset field, and
every group that an input field refers to exists. All of them run on any value and report every issue
with its path, in this order.
-/

namespace ActorSpec

/-- What is wrong, and where below the `schemas` section. -/
structure Issue where
  message : String
  path : String
deriving DecidableEq

/-- The answer of a check to a caller that wants the messages alone. -/
structure Verdict where
  valid : Bool
  errors : List String

def Verdict.ofIssues (issues : List Issue) : Verdict := ⟨issues.isEmpty, issues.map (·.message)⟩

namespace Check

def emptyConfig : Issue := ⟨"Config is empty or undefined", ""⟩

def missingActorName : Issue := ⟨"Missing required field: schemas.actor.name", "/actor/name"⟩

def actorIssues (config : Value) : List Issue :=
  if ((Config.actor config).declared? "name").isSome then [] else [missingActorName]

def danglingField (view : Scalar) (index : Nat) (name : Value) : Issue where
  message := "View '" ++ view.display ++ "' references unknown field '" ++ name.display ++ "'"
  path := SpecPath.join "" ["dataset", "views", view.display, "fields", toString index]

/-- The issues of one view: its fields that the dataset does not have. -/
def viewIssues (fields : Aggregate) (view : Scalar) (body : Value) : List Issue :=
  (Config.viewFields body).zipIdx.filterMap fun (name, index) =>
    if fields.contains name then none else some (danglingField view index name)

/-- What the issues of one view name. -/
def viewRemarks (fields : Aggregate) (view : Scalar) (body : Value) : List Remark :=
  ((Config.viewFields body).filter (!fields.contains ·)).map fun name =>
    ⟨[.scalar view, name], none⟩

def viewReferences (config : Value) : List Issue :=
  let fields := Aggregate.ofConfig config
  (Config.views config).flatMap fun (view, body) => viewIssues fields view body

def unknownGroup (name : Scalar) (group : Value) : Issue where
  message := "Input field '" ++ name.display ++ "' references unknown field_group '"
    ++ group.display ++ "'"
  path := SpecPath.join "" ["input", "fields", name.display, "group"]

/-- The mapping has an entry that the value, as a key, names. -/
def hasKey (groups : Mapping Value) : Value → Bool
  | .scalar key => groups.contains key
  | _ => false

def groupReferences (config : Value) : List Issue :=
  let groups := Config.fieldGroups config
  (Config.inputFields config).filterMap fun (name, d) =>
    (d.declared? "group").bind fun group =>
      if hasKey groups group then none else some (unknownGroup name group)

/-- What the issues of the references to groups name. -/
def groupRemarks (config : Value) : List Remark :=
  let groups := Config.fieldGroups config
  (Config.inputGroups config).filterMap fun (name, group) =>
    if hasKey groups group then none else some ⟨[.scalar name, group], none⟩

/-- Every issue of the cross references of a config. -/
def issues (config : Value) : List Issue :=
  if config.asMapping.isEmpty then [emptyConfig]
  else actorIssues config ++ viewReferences config ++ groupReferences config

def verdict (config : Value) : Verdict := .ofIssues (issues config)

/-- What the checks log: the dataset fields are merged unless the config is empty. -/
def records (config : Value) : List Record :=
  if config.asMapping.isEmpty then [] else (Aggregate.ofConfig config).records

/-- Everything that the checks say, in the order in which they say it. -/
def remarks (config : Value) : List Remark :=
  let fields := Aggregate.ofConfig config
  if config.asMapping.isEmpty then []
  else fields.remarks
    ++ (Config.views config).flatMap (fun (view, body) => viewRemarks fields view body)
    ++ groupRemarks config

/-- Runs the checks. -/
def run (config : Value) : Work RemarkFault (List Issue) := do
  Work.ensureSayable (remarks config)
  Work.logAll (records config)
  return issues config

end Check

end ActorSpec
