import ActorSpec.Config
import ActorSpec.Work

/-!
# Dataset fields merged from groups

The base fields of a dataset and the fields of its groups, group after group. The last writer of a
name gives its declaration, the first its place and spelling. The group that wrote last is kept in a
table beside the declarations, and every overwrite leaves a `Collision`.

An origin is the key of a group, or null for the base fields.
-/

namespace ActorSpec

/-- A field that is declared again. -/
structure Collision where
  name : Scalar
  previous : Scalar
  winning : Scalar

def originLabel : Scalar → String
  | .null => "dataset.fields"
  | group => "field_group '" ++ group.display ++ "'"

def Collision.message (c : Collision) : String :=
  "Dataset field '" ++ c.name.display ++ "' from " ++ originLabel c.winning
    ++ " overrides the definition from " ++ originLabel c.previous

/-- What the message names. -/
def Collision.named (c : Collision) : List Value := [.scalar c.name, .scalar c.winning, .scalar c.previous]

structure Aggregate where
  declarations : Mapping Declaration
  origins : Mapping Scalar
  collisions : List Collision

/-- Why a value finds no declaration. -/
inductive LookupFault where
  | unhashable (kind : String)
  | missing (key : Scalar)

def LookupFault.message : LookupFault → String
  | .unhashable kind => "unhashable type: '" ++ kind ++ "'"
  | .missing key => key.shown

/-- A value as a key: only scalars name an entry. -/
def Value.asKey : Value → Except LookupFault Scalar
  | .scalar s => .ok s
  | .list _ => .error (.unhashable "list")
  | .tuple _ => .error (.unhashable "tuple")
  | .set _ => .error (.unhashable "set")
  | .mapping _ => .error (.unhashable "dict")

namespace Aggregate

def ofBase (fields : Mapping Declaration) : Aggregate := ⟨fields, [], []⟩

/-- The group that wrote a field last, null for a field of the base alone. -/
def originOf (a : Aggregate) (name : Scalar) : Scalar := (a.origins.get? name).getD .null

/-- A field that some group declares need not be there in every run. -/
def isOptional (a : Aggregate) (name : Scalar) : Bool := a.origins.contains name

def names (a : Aggregate) : List Scalar := a.declarations.keys

/-- Values that cannot be keys are not contained. -/
def contains (a : Aggregate) : Value → Bool
  | .scalar name => a.declarations.contains name
  | _ => false

def declaration (a : Aggregate) (name : Scalar) : Except LookupFault Declaration :=
  match a.declarations.get? name with
  | some d => .ok d
  | none => .error (.missing name)

def shown (a : Aggregate) : String :=
  "AggregatedFields(" ++ (Value.list (a.names.map .scalar)).shown ++ ", origins="
    ++ (Value.mapping (a.origins.mapValues .scalar)).shown ++ ")"

/-! ## Merging -/

def addField (group : Scalar) (a : Aggregate) (name : Scalar) (d : Declaration) : Aggregate where
  declarations := a.declarations.insert name d
  origins := a.origins.insert name group
  collisions :=
    if a.declarations.contains name then a.collisions ++ [⟨name, a.originOf name, group⟩]
    else a.collisions

def addGroup (a : Aggregate) (group : Scalar) (fields : Mapping Declaration) : Aggregate :=
  fields.foldl (fun a f => a.addField group f.1 f.2) a

/-- What a merge logs. -/
def records (a : Aggregate) : List Record :=
  a.collisions.map fun c => Channel.aggregate.record .debug c.message

def remarks (a : Aggregate) : List Remark :=
  a.collisions.map fun c => ⟨c.named, some (Channel.aggregate.record .debug c.message)⟩

/-- The dataset fields of a config. -/
def ofConfig (config : Value) : Aggregate :=
  (Config.fieldGroups config).foldl (fun a group => a.addGroup group.1 (declarationsOf group.2))
    (ofBase (Config.baseFields config))

/-- Merges the dataset fields of a config and logs every overwrite. -/
def make (config : Value) : Work RemarkFault Aggregate := do
  let all := ofConfig config
  Work.ensureSayable all.remarks
  Work.logAll all.records
  return all

end Aggregate

end ActorSpec
