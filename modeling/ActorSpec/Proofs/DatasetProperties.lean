import ActorSpec.Proofs.DanglingFields
import Mathlib.Data.List.Forall2

/-!
# Dataset properties

Every dataset field has one property in the dataset schema (`IsDatasetPropertyOf`), and none is required.
The schema is made from the merged declarations and the views and from nothing else
(`DatasetSchema.ofFields_congr`, `DatasetSchema.warnings_congr`): neither the groups that fields are from
nor the overwrites show in it, so configs that merge to the same declarations have one schema.
-/

namespace ActorSpec

/-! ## Types -/

/-- The type of a dataset field: the one that is declared, or else that of the array shorthand. -/
def Declaration.resolvedType (d : Declaration) : Value :=
  (d.declared? "type").getD (if (d.declared? "array").isSome then .str "array" else .str "string")

theorem Declaration.type_eq (d : Declaration) : Declaration.type d = resolvedType d := by
  rw [Declaration.type, Inference.resolve, FallbackRule.resolve?, resolvedType]
  cases htype : d.declared? "type" with
  | some v =>
      simp [Inference.fieldType, FallbackRule.declared, htype, Mapping.field_of_declared? htype]
  | none =>
      cases harray : d.declared? "array" with
      | some v => simp [Inference.fieldType, FallbackRule.declared, Inference.arrayShorthand, htype, harray]
      | none => simp [Inference.fieldType, FallbackRule.declared, Inference.arrayShorthand, htype, harray]

namespace FieldSchema

theorem isArray_iff {type : Value} : isArray type = true ↔ type = .str "array" := by
  unfold isArray
  split
  · next s => simp
  · next hother =>
      refine iff_of_false Bool.false_ne_true ?_
      rintro rfl
      exact hother _ rfl

theorem isNullable_iff {v : Value} : isNullable v = false ↔ v = .bool false := by
  unfold isNullable
  split
  · simp
  · next hother => exact iff_of_false nofun hother

theorem isNullable_field (d : Declaration) :
    isNullable (d.field "nullable") = false ↔ d.get? (.str "nullable") = some (.bool false) := by
  rw [isNullable_iff, Mapping.field]
  cases d.get? (.str "nullable") with
  | none => simp
  | some v => simp

end FieldSchema

/-- The property of a dataset field with a declaration. Only a nullable that is literally false makes
the type one that does not admit null. -/
structure IsDatasetPropertyOf (d : Declaration) (property : Value) : Prop where
  arrayKeys : d.resolvedType = .str "array" →
    property.asMapping.keys = [.str "type", .str "title", .str "description", .str "items"]
  plainKeys : d.resolvedType ≠ .str "array" →
    property.asMapping.keys = [.str "type", .str "title", .str "description"]
  plainType : d.get? (.str "nullable") = some (.bool false) →
    property.asMapping.get? (.str "type") = some d.resolvedType
  nullableType : d.get? (.str "nullable") ≠ some (.bool false) →
    property.asMapping.get? (.str "type") = some (.list [d.resolvedType, .str "null"])

theorem FieldSchema.isDatasetPropertyOf_ofField (name : Value) (d : Declaration) :
    IsDatasetPropertyOf d (ofField name d).toValue where
  arrayKeys h := by
    have harray : isArray (Declaration.type d) = true := isArray_iff.mpr (d.type_eq.trans h)
    simp [ofField, Declaration.describe, harray, toValue, Value.ofFields, Value.asMapping, Mapping.keys]
  plainKeys h := by
    have harray : ¬ isArray (Declaration.type d) = true :=
      fun harray => h (d.type_eq.symm.trans (isArray_iff.mp harray))
    simp [ofField, Declaration.describe, harray, toValue, Value.ofFields, Value.asMapping, Mapping.keys]
  plainType h := by
    rw [toValue, Mapping.get?_ofFields]
    simp [ofField, Declaration.describe, (isNullable_field d).mpr h, Declaration.type_eq]
  nullableType h := by
    have hnullable : isNullable (d.field "nullable") = true :=
      Bool.eq_true_of_not_eq_false (mt (isNullable_field d).mp h)
    rw [toValue, Mapping.get?_ofFields]
    simp [ofField, Declaration.describe, hnullable, Declaration.type_eq]

/-! ## What the schema is made from -/

namespace View

variable {all all' : Aggregate}

theorem resolve?_congr (h : all.declarations = all'.declarations) : resolve? all = resolve? all' := by
  funext field
  cases field with
  | scalar name => rw [resolve?, resolve?, h]
  | list | tuple | set | mapping => rfl

theorem ofConfig_congr (h : all.declarations = all'.declarations) (name body : Value) :
    ofConfig all name body = ofConfig all' name body := by
  rw [ofConfig, ofConfig, resolve?_congr h]

theorem warnings_congr (h : all.declarations = all'.declarations) (name body : Value) :
    warnings all name body = warnings all' name body := by
  rw [warnings, warnings, resolve?_congr h]

end View

namespace DatasetSchema

variable {all all' : Aggregate} {config config' : Value}

theorem ofFields_congr (hfields : all.declarations = all'.declarations)
    (hviews : Config.views config = Config.views config') :
    ofFields all config = ofFields all' config' := by
  simp only [ofFields, hfields, hviews, View.ofConfig_congr hfields]

theorem warnings_congr (hfields : all.declarations = all'.declarations)
    (hviews : Config.views config = Config.views config') :
    warnings all config = warnings all' config' := by
  simp only [warnings, hviews, View.warnings_congr hfields]

/-- The property of a field in the dataset schema, made from its entry in the merge. -/
def entryOf (field : Scalar × Declaration) : Scalar × Value :=
  (field.1, (FieldSchema.ofField (.scalar field.1) field.2).toValue)

theorem section_properties (config : Value) : (ofConfig config).toValue.section ["fields", "properties"] =
    (Aggregate.ofConfig config).declarations.map entryOf := by
  have hsection : (ofConfig config).toValue.section ["fields", "properties"] =
      (ofConfig config).fields.mapValues FieldSchema.toValue := rfl
  rw [hsection, ofConfig, ofFields, Mapping.mapValues, List.map_map]
  rfl

/-- The dataset schema has one property for each merged field, in the order of the merge, and says of
none that it is required. A config with the same views that merges to the same declarations, wherever
they are from, has the same schema, and its views are warned about in the same way. The schema is a
function of the declarations and the views alone (`ofFields_congr`). -/
theorem fieldProperties_exact (config : Value) :
    let all := Aggregate.ofConfig config
    let document := (ofConfig config).toValue
    let properties := document.section ["fields", "properties"]
    (document.section ["fields"]).keys = [.str "$schema", .str "type", .str "properties"]
    ∧ properties.keys = all.names
    ∧ List.Forall₂ (fun field property => property.1 = field.1
        ∧ IsDatasetPropertyOf field.2 property.2) all.declarations properties
    ∧ ∀ config', Config.views config' = Config.views config →
        (Aggregate.ofConfig config').declarations = all.declarations →
        (ofConfig config').toValue = document
        ∧ ∀ verbose, warningsIn (Documents.records verbose config') =
            warningsIn (Documents.records verbose config) := by
  intro all document properties
  have hproperties : properties = all.declarations.map entryOf := section_properties config
  refine ⟨rfl, ?_, ?_, fun config' hviews hfields => ⟨?_, fun verbose => ?_⟩⟩
  · rw [hproperties, Mapping.keys, List.map_map]
    rfl
  · rw [hproperties, List.forall₂_map_right_iff]
    exact List.forall₂_same.mpr fun f _ => ⟨rfl, FieldSchema.isDatasetPropertyOf_ofField _ _⟩
  · exact congrArg toValue (ofFields_congr hfields hviews)
  · rw [Documents.warningsIn_records, Documents.warningsIn_records, ← warnings_eq, ← warnings_eq,
      warnings_congr hfields hviews]

/-- Two groups, the second of which overwrites fields of the base and of the first. -/
def groupedFields : Value := .ofFields [("dataset", .ofFields [
  ("fields", .ofFields [("price", .null), ("tags", .ofFields [("type", .str "object")])]),
  ("field_groups", .ofFields [
    ("paging", .ofFields [("page", .str "first")]),
    ("late", .ofFields [
      ("page", .ofFields [("type", .str "integer"), ("nullable", .bool false)]),
      ("tags", .ofFields [("array", .int 1), ("nullable", .int 0)])])]),
  ("views", .ofFields [("main", .ofFields [("fields", .list [.str "page", .str "gone"])])])])]

/-- The same declarations, all of them in the base. -/
def baseFieldsOnly : Value := .ofFields [("dataset", .ofFields [
  ("views", .ofFields [("main", .ofFields [("fields", .list [.str "page", .str "gone"])])]),
  ("fields", .ofFields [
    ("price", .list []),
    ("tags", .ofFields [("array", .int 1), ("nullable", .int 0)]),
    ("page", .ofFields [("type", .str "integer"), ("nullable", .bool false)])])])]

theorem groupedFields_exact :
    (Aggregate.ofConfig groupedFields).collisions.length = 2
    ∧ (Aggregate.ofConfig baseFieldsOnly).collisions.length = 0
    ∧ (ofConfig groupedFields).toValue = (ofConfig baseFieldsOnly).toValue
    ∧ (warningsIn (Documents.records true groupedFields)).map (·.message) =
        ["Field 'gone' in view 'main' not found in fields definition"]
    ∧ ∃ price tags page, (ofConfig groupedFields).toValue.section ["fields", "properties"] =
        [(.str "price", price), (.str "tags", tags), (.str "page", page)]
      ∧ tags.asMapping.keys = [.str "type", .str "title", .str "description", .str "items"]
      ∧ tags.asMapping.get? (.str "type") = some (.list [.str "array", .str "null"])
      ∧ page.asMapping.get? (.str "type") = some (.str "integer") := by
  obtain ⟨-, -, hproperties, hsame⟩ := fieldProperties_exact baseFieldsOnly
  obtain ⟨hdocument, hwarnings⟩ := hsame groupedFields rfl rfl
  refine ⟨by decide, by decide, hdocument, ?_, ?_⟩
  · rw [hwarnings]
    decide
  · obtain ⟨⟨_, price⟩, behindPrice, ⟨rfl, -⟩, hbehind, hlisted⟩ :=
      List.forall₂_cons_left_iff.mp hproperties
    obtain ⟨⟨_, tags⟩, behindTags, ⟨rfl, htags⟩, hbehind', htail⟩ :=
      List.forall₂_cons_left_iff.mp hbehind
    obtain ⟨⟨_, page⟩, behindPage, ⟨rfl, hpage⟩, hnil, htail'⟩ :=
      List.forall₂_cons_left_iff.mp hbehind'
    rw [List.forall₂_nil_left_iff.mp hnil] at htail'
    rw [htail, htail'] at hlisted
    rw [hdocument]
    exact ⟨price, tags, page, hlisted, htags.arrayKeys rfl, htags.nullableType nofun,
      hpage.plainType rfl⟩

end DatasetSchema

end ActorSpec
