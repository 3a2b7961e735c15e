import ActorSpec.Document.All
import ActorSpec.Proofs.Inspection

/-!
# The operations on a config

What is made of a config, as functions (`Operation.run`) and once more as inspections. These name every
part that is read, with the path to it and in the order of the reads, and their tolerant runs are the
functions (`Operation.tolerant_inspection`).
-/

namespace ActorSpec

/-- An operation on a config. -/
inductive Operation where
  /-- The four documents, and what is logged on the way. -/
  | documents (verbose : Bool)
  | defaultInput
  | datasetFields
  | inputGroups
  /-- The issues of the cross references. -/
  | references

namespace Operation

def Result : Operation → Type
  | .documents _ => Documents × List Record
  | .defaultInput => Mapping Value
  | .datasetFields => Aggregate
  | .inputGroups => Mapping Value
  | .references => List Issue

def run : (op : Operation) → Value → op.Result
  | .documents verbose, config => (.ofConfig config, Documents.records verbose config)
  | .defaultInput, config => DefaultInput.ofConfig config
  | .datasetFields, config => Aggregate.ofConfig config
  | .inputGroups, config => Config.inputGroups config
  | .references, config => Check.issues config

end Operation

namespace Inspection

/-! ## Sections and fields -/

/-- Goes down from a table through tables. -/
def descend (t : Table) : List String → Inspection Table
  | [] => pure t
  | key :: rest => do descend (← table (t.field key)) rest

def sectionOf (config : Value) (keys : List String) : Inspection Table := do
  descend (← table ⟨[], config⟩) keys

def declarations (fields : Part) : Inspection (Mapping Declaration) := do
  eachEntry (fun _ body => do return (← table body).entries) (← table fields)

def inputFields (config : Value) : Inspection (Mapping Declaration) := do
  declarations ((← sectionOf config ["input"]).field "fields")

def views (config : Value) : Inspection Table := sectionOf config ["dataset", "views"]

def viewFields (body : Part) : Inspection (List Value) := do
  list ((← table body).field "fields")

/-! ## Merging -/

def aggregate (config : Value) : Inspection Aggregate := do
  let dataset ← sectionOf config ["dataset"]
  let base ← declarations (dataset.field "fields")
  let groups ← table (dataset.field "field_groups")
  let written ← eachEntry (fun _ fields => declarations fields) groups
  return written.foldl (fun a group => a.addGroup group.1 group.2) (.ofBase base)

def inputGroups (config : Value) : Inspection (Mapping Value) := do
  let fields ← inputFields config
  return fields.filterMap fun (name, d) => (d.declared? "group").map (name, ·)

/-! ## Documents -/

def manifest (config : Value) : Inspection Manifest := do
  let actor ← sectionOf config ["actor"]
  return {
    name := (actor.entries.declared? "name").getD (.str "unnamed-actor")
    version := (actor.entries.declared? "version").getD (.str "0.1")
    buildTag := (actor.entries.declared? "build_tag").getD (.str "latest")
    environmentVariables := (actor.entries.declared? "environment_variables").getD (.mapping []) }

def inputTitle (config : Value) : Inspection Value := do
  let actor ← sectionOf config ["actor"]
  return match actor.entries.declared? "title", actor.entries.declared? "name" with
    | some title, _ => title
    | none, some name => .str (titleOf name)
    | none, none => .str "Actor Input"

def inputSchema (config : Value) : Inspection InputSchema := do
  let input ← sectionOf config ["input"]
  let fields ← declarations (input.field "fields")
  let title ← inputTitle config
  let required ← list (input.field "required")
  return {
    title
    properties := fields.map fun (name, d) => (name, .ofField (.scalar name) d)
    required }

/-- A view, and the warnings about it. -/
def view (all : Aggregate) (name : Scalar) (body : Part) : Inspection (View × List Record) := do
  let body ← table body
  let fields ← list (body.field "fields")
  let made : View := {
    title := (body.entries.declared? "title").getD (.str (titleOf (.scalar name)))
    fields
    component := (body.entries.declared? "component").getD (.str "table")
    properties := Mapping.ofEntries
      ((fields.filterMap (View.resolve? all)).map fun (name, d) => (name, View.property name d)) }
  let dangling := fields.filter fun field => (View.resolve? all field).isNone
  return (made, dangling.map fun field =>
    Channel.datasetSchema.record .warning (View.danglingMessage (.scalar name) field))

def datasetSchema (all : Aggregate) (config : Value) :
    Inspection (DatasetSchema × List Record) := do
  let made ← eachEntry (view all) (← views config)
  return ({
    fields := all.declarations.map fun (name, d) => (name, .ofField (.scalar name) d)
    views := made.map fun (name, view, _) => (name, view) }, made.flatMap fun e => e.2.2)

def outputSchema (config : Value) : Inspection OutputSchema := do
  let output ← sectionOf config ["output"]
  let properties := output.entries.field "properties"
  return {
    title := (output.entries.declared? "title").getD (.str "Scraper Results")
    description := (output.entries.declared? "description").getD (.str "Scraper Results")
    properties := if OutputSchema.isUnset properties then OutputSchema.defaultProperties
      else properties }

def documents (verbose : Bool) (config : Value) : Inspection (Documents × List Record) := do
  let manifest ← manifest config
  let inputSchema ← inputSchema config
  let all ← aggregate config
  let (datasetSchema, warnings) ← datasetSchema all config
  let outputSchema ← outputSchema config
  return ({ manifest, inputSchema, datasetSchema, outputSchema },
    all.records ++ (if verbose then warnings else []))

def defaultInput (config : Value) : Inspection (Mapping Value) := do
  let input ← sectionOf config ["input"]
  let fields ← declarations (input.field "fields")
  let defaults ← table (input.field "defaults")
  let derived := fields.filterMap fun (name, d) => (DefaultInput.derived? d).map (name, ·)
  return Mapping.update derived defaults.entries

/-! ## Cross references -/

def actorIssues (config : Value) : Inspection (List Issue) := do
  let actor ← sectionOf config ["actor"]
  return if (actor.entries.declared? "name").isSome then [] else [Check.missingActorName]

def viewReferences (config : Value) : Inspection (List Issue) := do
  let fields ← aggregate config
  let listed ← eachEntry (fun _ body => viewFields body) (← views config)
  return listed.flatMap fun (view, names) => names.zipIdx.filterMap fun (name, index) =>
    if fields.contains name then none else some (Check.danglingField view index name)

def groupReferences (config : Value) : Inspection (List Issue) := do
  let groups ← sectionOf config ["dataset", "field_groups"]
  let fields ← inputFields config
  return fields.filterMap fun (name, d) => (d.declared? "group").bind fun group =>
    if Check.hasKey groups.entries group then none else some (Check.unknownGroup name group)

/-- That the config is a mapping with entries is found out by a look at it, which is not a read. -/
def references (config : Value) : Inspection (List Issue) :=
  if config.asMapping.isEmpty then pure [Check.emptyConfig]
  else do
    return (← actorIssues config) ++ (← viewReferences config) ++ (← groupReferences config)

end Inspection

def Operation.inspection : (op : Operation) → Value → Inspection op.Result
  | .documents verbose, config => Inspection.documents verbose config
  | .defaultInput, config => Inspection.defaultInput config
  | .datasetFields, config => Inspection.aggregate config
  | .inputGroups, config => Inspection.inputGroups config
  | .references, config => Inspection.references config

/-! ## The tolerant runs -/

namespace Inspection

theorem entries_tolerant_descend (t : Table) (keys : List String) :
    (descend t keys).tolerant.entries =
      keys.foldl (fun m key => (m.field key).asMapping) t.entries := by
  induction keys generalizing t with
  | nil => rfl
  | cons key rest ih =>
      rw [descend, tolerant_bind, ih]
      rfl

@[simp] theorem entries_tolerant_sectionOf (config : Value) (keys : List String) :
    (sectionOf config keys).tolerant.entries = config.section keys := by
  rw [sectionOf, tolerant_bind, entries_tolerant_descend]
  rfl

@[simp] theorem tolerant_views (config : Value) :
    (views config).tolerant.entries = Config.views config := by
  rw [views, entries_tolerant_sectionOf]
  rfl

@[simp] theorem tolerant_declarations (p : Part) :
    (declarations p).tolerant = declarationsOf p.value := by
  simp [declarations, declarationsOf, Mapping.mapValues]

@[simp] theorem tolerant_inputFields (config : Value) :
    (inputFields config).tolerant = Config.inputFields config := by
  simp [inputFields, Config.inputFields, Config.input]

@[simp] theorem tolerant_viewFields (body : Part) :
    (viewFields body).tolerant = Config.viewFields body.value := by
  simp [viewFields, Config.viewFields]

@[simp] theorem tolerant_aggregate (config : Value) :
    (aggregate config).tolerant = .ofConfig config := by
  simp [aggregate, Aggregate.ofConfig, Config.fieldGroups, Config.baseFields, Config.dataset,
    List.foldl_map]

@[simp] theorem tolerant_manifest (config : Value) :
    (manifest config).tolerant = .ofConfig config := by
  simp [manifest, Manifest.ofConfig, Config.actor]

@[simp] theorem tolerant_inputTitle (config : Value) :
    (inputTitle config).tolerant = InputSchema.titleOfActor config := by
  simp only [inputTitle, tolerant_bind, tolerant_pure, entries_tolerant_sectionOf]
  rfl

@[simp] theorem tolerant_inputSchema (config : Value) :
    (inputSchema config).tolerant = .ofConfig config := by
  simp [inputSchema, InputSchema.ofConfig, Config.inputFields, Config.requiredInputs, Config.input]

@[simp] theorem tolerant_view (all : Aggregate) (name : Scalar) (body : Part) :
    (view all name body).tolerant =
      (.ofConfig all (.scalar name) body.value, View.warnings all (.scalar name) body.value) := by
  simp [view, View.ofConfig, View.warnings, Config.viewFields]

@[simp] theorem tolerant_datasetSchema (all : Aggregate) (config : Value) :
    (datasetSchema all config).tolerant =
      (.ofFields all config, DatasetSchema.warnings all config) := by
  simp [datasetSchema, DatasetSchema.ofFields, DatasetSchema.warnings, List.flatMap_map]

@[simp] theorem tolerant_outputSchema (config : Value) :
    (outputSchema config).tolerant = .ofConfig config := by
  simp only [outputSchema, tolerant_bind, tolerant_pure, entries_tolerant_sectionOf]
  rfl

theorem tolerant_documents (verbose : Bool) (config : Value) :
    (documents verbose config).tolerant =
      (.ofConfig config, Documents.records verbose config) := by
  simp [documents, Documents.ofConfig, Documents.records, DatasetSchema.ofConfig]

theorem tolerant_defaultInput (config : Value) :
    (defaultInput config).tolerant = DefaultInput.ofConfig config := by
  simp [defaultInput, DefaultInput.ofConfig, Config.inputFields, Config.inputDefaults, Config.input]

theorem tolerant_inputGroups (config : Value) :
    (inputGroups config).tolerant = Config.inputGroups config := by
  simp [inputGroups, Config.inputGroups]

@[simp] theorem tolerant_actorIssues (config : Value) :
    (actorIssues config).tolerant = Check.actorIssues config := by
  simp only [actorIssues, tolerant_bind, tolerant_pure, entries_tolerant_sectionOf]
  rfl

@[simp] theorem tolerant_viewReferences (config : Value) :
    (viewReferences config).tolerant = Check.viewReferences config := by
  simp [viewReferences, Check.viewReferences, Check.viewIssues, List.flatMap_map]

@[simp] theorem tolerant_groupReferences (config : Value) :
    (groupReferences config).tolerant = Check.groupReferences config := by
  simp only [groupReferences, tolerant_bind, tolerant_pure, entries_tolerant_sectionOf,
    tolerant_inputFields]
  rfl

theorem tolerant_references (config : Value) :
    (references config).tolerant = Check.issues config := by
  rw [references, Check.issues]
  split
  · rfl
  · simp

end Inspection

theorem Operation.tolerant_inspection (op : Operation) (config : Value) :
    (op.inspection config).tolerant = op.run config := by
  cases op with
  | documents verbose => exact Inspection.tolerant_documents verbose config
  | defaultInput => exact Inspection.tolerant_defaultInput config
  | datasetFields => exact Inspection.tolerant_aggregate config
  | inputGroups => exact Inspection.tolerant_inputGroups config
  | references => exact Inspection.tolerant_references config

end ActorSpec
