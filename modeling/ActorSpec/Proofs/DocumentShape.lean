import Mathlib.Data.List.Forall2
import ActorSpec.Document.All
import ActorSpec.Proofs.CleanConfig

/-!
# The shapes of the documents

What the four documents of a config look like when the lint has nothing to say. The shapes are closed
records: a document has every required field, no field beside the known ones, and in each field a
value of its kind.

A value reaches a document in one of three ways: as declared, because its key is there or because it is
truthy, or as the fallback of an attribute that is not given. A clean config has nothing but values of
the right kind to declare, and every fallback is of that kind as well, so the shapes follow attribute
by attribute (`Declaration.Clean`) and carry over to the fields that groups add, since merging makes up
no declarations (`Aggregate.forall_mem_ofConfig`).
-/

namespace ActorSpec

namespace Value

def IsInteger (v : Value) : Prop := ∃ n, v = .int n

/-- A mapping that has all the required fields, and beside them at most the optional ones. -/
def IsRecord (required optional : List (String × (Value → Prop))) (v : Value) : Prop :=
  ∃ m, v = .mapping m ∧ (∀ f ∈ required, ∃ e ∈ m, e.1 = .str f.1)
    ∧ ∀ e ∈ m, ∃ f ∈ required ++ optional, e.1 = .str f.1 ∧ f.2 e.2

/-! ## The documents -/

def IsManifest : Value → Prop :=
  IsRecord [
    ("actorSpecification", IsInteger),
    ("name", IsNonemptyText),
    ("version", IsText),
    ("buildTag", IsText),
    ("environmentVariables", IsTableOf IsSetting),
    ("input", IsText),
    ("output", IsText),
    ("storages", IsRecord [("dataset", IsText)] [])] []

def IsInputProperty : Value → Prop :=
  IsRecord [
    ("title", IsText),
    ("type", IsKind),
    ("description", IsText),
    ("editor", IsText)] Declaration.constraintKinds

def IsInputSchema : Value → Prop :=
  IsRecord [
    ("title", IsText),
    ("type", IsText),
    ("schemaVersion", IsInteger),
    ("properties", IsTableOf IsInputProperty),
    ("required", IsListOf IsText)] []

/-- A field type, alone or with null beside it. -/
def IsTypeOf (k : Kind) (v : Value) : Prop :=
  v = .str k.name ∨ v = .list [.str k.name, .str "null"]

/-- Items belong to arrays, and to nothing else. -/
def IsFieldSchema (v : Value) : Prop :=
  ∃ k : Kind, v.IsRecord ([
    ("type", IsTypeOf k),
    ("title", IsText),
    ("description", IsText)]
    ++ if k = .array then [("items", IsRecord [("type", IsText)] [])] else []) []

def IsView : Value → Prop :=
  IsRecord [
    ("title", IsText),
    ("transformation", IsRecord [("fields", IsListOf IsText)] []),
    ("display", IsRecord [
      ("component", IsText),
      ("properties", IsTableOf (IsRecord [("label", IsText), ("format", IsText)] []))] [])] []

def IsDatasetSchema : Value → Prop :=
  IsRecord [
    ("actorSpecification", IsInteger),
    ("fields", IsRecord [
      ("$schema", IsText),
      ("type", IsText),
      ("properties", IsTableOf IsFieldSchema)] []),
    ("views", IsTableOf IsView)] []

def IsOutputSchema : Value → Prop :=
  IsRecord [
    ("actorOutputSchemaVersion", IsInteger),
    ("title", IsText),
    ("description", IsText),
    ("properties", IsTableOf IsAny)] []

/-! ## Making records and tables -/

/-- Lists that are related place by place: every element of the first has a partner. -/
theorem exists_partner {α β : Type} {R : α → β → Prop} {as : List α} {bs : List β}
    (h : List.Forall₂ R as bs) : ∀ a ∈ as, ∃ b ∈ bs, R a b := by
  induction h with
  | nil => exact fun a ha => nomatch ha
  | cons hab _ ih =>
      refine List.forall_mem_cons.mpr ⟨⟨_, List.mem_cons_self .., hab⟩, fun a ha => ?_⟩
      obtain ⟨b, hb, hr⟩ := ih a ha
      exact ⟨b, List.mem_cons_of_mem _ hb, hr⟩

/-- The required fields in their order, then some of the optional ones. -/
theorem isRecord_append {fields extra : List (String × Value)}
    {required optional : List (String × (Value → Prop))}
    (hfields : List.Forall₂ (fun r f => f.1 = r.1 ∧ r.2 f.2) required fields)
    (hextra : ∀ e ∈ extra, ∃ f ∈ optional, e.1 = f.1 ∧ f.2 e.2) :
    IsRecord required optional (.ofFields (fields ++ extra)) := by
  refine ⟨_, rfl, ?_, ?_⟩
  · intro r hr
    obtain ⟨f, hf, hkey, -⟩ := exists_partner hfields r hr
    exact ⟨_, List.mem_map_of_mem (List.mem_append_left _ hf), congrArg Scalar.str hkey⟩
  · intro e he
    obtain ⟨f, hf, rfl⟩ := List.mem_map.mp he
    rcases List.mem_append.mp hf with hleft | hright
    · obtain ⟨r, hr, hkey, hvalue⟩ := exists_partner (List.Forall₂.flip hfields) f hleft
      exact ⟨r, List.mem_append_left _ hr, congrArg Scalar.str hkey, hvalue⟩
    · obtain ⟨o, ho, hkey, hvalue⟩ := hextra f hright
      exact ⟨o, List.mem_append_right _ ho, congrArg Scalar.str hkey, hvalue⟩

theorem isRecord_ofFields {fields : List (String × Value)}
    {required : List (String × (Value → Prop))}
    (h : List.Forall₂ (fun r f => f.1 = r.1 ∧ r.2 f.2) required fields) :
    IsRecord required [] (.ofFields fields) := by
  have hnone : ∀ e ∈ ([] : List (String × Value)),
      ∃ f ∈ ([] : List (String × (Value → Prop))), e.1 = f.1 ∧ f.2 e.2 :=
    fun e he => nomatch he
  rw [← List.append_nil fields]
  exact isRecord_append h hnone

theorem isTableOf_mapValues {α : Type} {P : Value → Prop} {m : Mapping α} {f : α → Value}
    (h : ∀ e ∈ m, P (f e.2)) : IsTableOf P (.mapping (m.mapValues f)) := by
  refine ⟨_, rfl, fun e he => ?_⟩
  obtain ⟨e', he', rfl⟩ := List.mem_map.mp he
  exact h e' he'

end Value

/-! ## Attributes -/

theorem Value.isText_str (s : String) : (Value.str s).IsText := ⟨s, rfl⟩

theorem FallbackRule.declared_value {d : Declaration} {key : String} {P : Value → Prop}
    (h : d.MayHave key P) {name : String} (happlies : (declared key).applies name d = true) :
    P ((declared key).value name d) := by
  obtain ⟨v, hv⟩ := Option.isSome_iff_exists.mp happlies
  have hvalue : (declared key).value name d = v := Mapping.field_of_declared? hv
  exact hvalue.symm ▸ (h.declared hv).1

/-- What all steps give that apply, and the fallback as well, is what the inference gives. -/
theorem Inference.resolve_induction {i : Inference} {name : Value} {d : Declaration}
    {P : Value → Prop}
    (hsteps : ∀ r ∈ i.steps, r.applies (ruleName name) d = true → P (r.value (ruleName name) d))
    (hfallback : P (i.fallback d)) : P (i.resolve name d) := by
  rw [resolve, FallbackRule.resolve?]
  cases hfind : i.steps.find? (·.applies (ruleName name) d) with
  | none => exact hfallback
  | some r =>
      exact hsteps r (List.mem_of_find?_eq_some hfind)
        (List.find?_some (p := fun r : FallbackRule => r.applies (ruleName name) d) hfind)

/-- A null counts as not given. -/
theorem Mapping.MayHave.getD_of_orNull {m : Mapping Value} {key : String} {P : Value → Prop}
    (h : m.MayHave key (Value.OrNull P)) {d : Value} (hd : P d) :
    P ((m.declared? key).getD d) := by
  cases hv : m.declared? key with
  | none => exact hd
  | some v =>
      obtain ⟨rfl | hP, htruthy⟩ := h.declared hv
      · cases htruthy
      · exact hP

namespace Declaration

variable {d : Declaration}

theorem Clean.isKind_type (h : d.Clean) : d.type.IsKind := by
  refine Inference.resolve_induction ?_ ⟨.string, rfl⟩
  simp only [Inference.fieldType, List.forall_mem_cons]
  exact ⟨FallbackRule.declared_value h.type, fun _ => ⟨.array, rfl⟩, fun _ hr => nomatch hr⟩

theorem Clean.isKind_inputType (h : d.Clean) : (inputType d).IsKind := by
  refine Inference.resolve_induction ?_ ⟨.string, rfl⟩
  simp only [Inference.inputType, List.forall_mem_cons]
  exact ⟨FallbackRule.declared_value h.type, fun _ hr => nomatch hr⟩

theorem Clean.isText_format (h : d.Clean) (name : Value) : (d.format name).IsText := by
  refine Inference.resolve_induction ?_ (Value.isText_str _)
  simp only [Inference.format, List.forall_mem_cons]
  exact ⟨FallbackRule.declared_value h.format, fun _ => Value.isText_str _,
    fun _ => Value.isText_str _, fun _ => Value.isText_str _, fun _ hr => nomatch hr⟩

theorem CleanInput.isText_editor (h : d.CleanInput) : d.editor.IsText := by
  refine Inference.resolve_induction ?_ (Value.isText_str _)
  simp only [Inference.editor, List.forall_mem_cons]
  exact ⟨FallbackRule.declared_value h.editor, fun _ hr => nomatch hr⟩

theorem Clean.isText_title (h : d.Clean) (name : Value) : (d.title name).IsText :=
  h.title.getD (Value.isText_str _)

theorem Clean.isText_description (h : d.Clean) : d.description.IsText := by
  rw [Declaration.description]
  cases hv : d.declared? "description" with
  | some v => exact (h.description.declared hv).1
  | none => exact h.desc.getD (Value.isText_str _)

theorem CleanDataset.isText_label (h : d.CleanDataset) (name : Value) : (d.label name).IsText :=
  h.label.getD (h.common.isText_title name)

/-- A constraint is carried over with the value of its key, so what the lint says of the key is true of
the constraint. -/
theorem CleanInput.constraints_kinds (h : d.CleanInput) :
    ∀ e ∈ d.constraints, ∃ f ∈ constraintKinds, e.1 = f.1 ∧ f.2 e.2 := by
  intro e he
  obtain ⟨key, hkey, hget⟩ := List.mem_filterMap.mp he
  obtain ⟨v, hv, rfl⟩ := Option.map_eq_some_iff.mp hget
  obtain ⟨f, hf, rfl⟩ := List.mem_map.mp (show key ∈ constraintKinds.map Prod.fst from hkey)
  exact ⟨f, hf, rfl, h.constraints f hf v hv⟩

end Declaration

/-! ## Documents of a clean config -/

namespace Config.Clean

variable {config : Value}

open Value

theorem isManifest (h : Clean config) : IsManifest (Manifest.ofConfig config).toValue :=
  isRecord_ofFields <|
    .cons ⟨rfl, 1, rfl⟩ <|
    .cons ⟨rfl, h.actor.name.getD ⟨_, rfl, by decide⟩⟩ <|
    .cons ⟨rfl, h.actor.version.getD (isText_str _)⟩ <|
    .cons ⟨rfl, h.actor.buildTag.getD (isText_str _)⟩ <|
    .cons ⟨rfl, h.actor.environmentVariables.getD_of_orNull ⟨[], rfl, fun _ he => nomatch he⟩⟩ <|
    .cons ⟨rfl, isText_str _⟩ <|
    .cons ⟨rfl, isText_str _⟩ <|
    .cons ⟨rfl, isRecord_ofFields (.cons ⟨rfl, isText_str _⟩ .nil)⟩ .nil

theorem isInputProperty {d : Declaration} (h : d.CleanInput) (name : Value) :
    IsInputProperty (InputProperty.ofField name d).toValue := by
  refine isRecord_append ?_ h.constraints_kinds
  exact
    .cons ⟨rfl, h.common.isText_title name⟩ <|
    .cons ⟨rfl, h.common.isKind_inputType⟩ <|
    .cons ⟨rfl, h.common.isText_description⟩ <|
    .cons ⟨rfl, h.isText_editor⟩ .nil

theorem isText_inputTitle (h : Clean config) : (InputSchema.titleOfActor config).IsText := by
  rw [InputSchema.titleOfActor]
  split
  · next title name htitle => exact (h.actor.title.declared htitle).1
  · exact isText_str _
  · exact isText_str _

theorem isInputSchema (h : Clean config) : IsInputSchema (InputSchema.ofConfig config).toValue := by
  have hproperties : ∀ e ∈ (InputSchema.ofConfig config).properties, IsInputProperty e.2.toValue := by
    intro e he
    obtain ⟨⟨name, d⟩, hd, rfl⟩ := List.mem_map.mp he
    exact isInputProperty (h.inputFields (name, d) hd) (.scalar name)
  exact isRecord_ofFields <|
    .cons ⟨rfl, h.isText_inputTitle⟩ <|
    .cons ⟨rfl, isText_str _⟩ <|
    .cons ⟨rfl, 1, rfl⟩ <|
    .cons ⟨rfl, isTableOf_mapValues hproperties⟩ <|
    .cons ⟨rfl, _, rfl, h.required⟩ .nil

/-- The items of a field schema are decided by the type that the field ends up with, whether it was
named or asked for by the shorthand. -/
theorem isFieldSchema {d : Declaration} (h : d.CleanDataset) (name : Value) :
    IsFieldSchema (FieldSchema.ofField name d).toValue := by
  obtain ⟨k, hk⟩ := h.common.isKind_type
  have htype : IsTypeOf k
      (if FieldSchema.isNullable (d.field "nullable") then .list [d.type, .str "null"] else d.type) := by
    rw [hk]
    split
    · exact .inr rfl
    · exact .inl rfl
  have hitems : (FieldSchema.ofField name d).items =
      if k = .array then some ((d.declared? "itemType").getD (.str "string")) else none := by
    have harray : FieldSchema.isArray d.type = true ↔ k = .array := by
      rw [hk]
      cases k <;> decide
    exact if_congr harray rfl rfl
  refine ⟨k, isRecord_ofFields (List.rel_append ?_ ?_)⟩
  · exact
      .cons ⟨rfl, htype⟩ <|
      .cons ⟨rfl, h.common.isText_title name⟩ <|
      .cons ⟨rfl, h.common.isText_description⟩ .nil
  · rw [hitems]
    split
    · exact .cons ⟨rfl, isRecord_ofFields (.cons ⟨rfl, h.itemType.getD (isText_str _)⟩ .nil)⟩ .nil
    · exact .nil

/-- Every field of the dataset, also one that only a group declares. -/
theorem declarations (h : Clean config) :
    ∀ e ∈ (Aggregate.ofConfig config).declarations, e.2.CleanDataset :=
  Aggregate.forall_mem_ofConfig h.datasetFields

/-- What a view displays of a field is what the dataset declares of it. -/
theorem of_resolve (h : Clean config) {field : Value} {name : Scalar} {d : Declaration}
    (hresolve : View.resolve? (.ofConfig config) field = some (name, d)) : d.CleanDataset := by
  cases field with
  | scalar key =>
      obtain ⟨d', hget, heq⟩ := Option.map_eq_some_iff.mp hresolve
      obtain ⟨rfl, rfl⟩ := Prod.mk.inj heq
      obtain ⟨k, hmem, -⟩ := Mapping.mem_of_get? hget
      exact h.declarations (k, d') hmem
  | _ => cases hresolve

theorem isText_viewFields {body : Value} (hbody : CleanView body.asMapping) :
    ∀ v ∈ Config.viewFields body, v.IsText :=
  (hbody.fields.mono fun _ hv => hv.asList).field fun _ hv => nomatch hv

theorem isRecord_viewProperty (h : Clean config) (name : Value) (body : Value) :
    ∀ e ∈ (View.ofConfig (.ofConfig config) name body).properties,
      IsRecord [("label", IsText), ("format", IsText)] [] e.2.toValue := by
  intro e he
  obtain ⟨e', he', heq⟩ := Mapping.mem_ofEntries he
  obtain ⟨⟨key, d⟩, hresolved, rfl⟩ := List.mem_map.mp he'
  obtain ⟨field, -, hfield⟩ := List.mem_filterMap.mp hresolved
  have hd : d.CleanDataset := h.of_resolve hfield
  rw [← heq]
  exact isRecord_ofFields <|
    .cons ⟨rfl, hd.isText_label (.scalar key)⟩ <|
    .cons ⟨rfl, hd.common.isText_format (.scalar key)⟩ .nil

theorem isView (h : Clean config) {body : Value} (hbody : CleanView body.asMapping) (name : Value) :
    IsView (View.ofConfig (.ofConfig config) name body).toValue :=
  isRecord_ofFields <|
    .cons ⟨rfl, hbody.title.getD (isText_str _)⟩ <|
    .cons ⟨rfl, isRecord_ofFields (.cons ⟨rfl, _, rfl, isText_viewFields hbody⟩ .nil)⟩ <|
    .cons ⟨rfl, isRecord_ofFields <|
      .cons ⟨rfl, hbody.component.getD (isText_str _)⟩ <|
      .cons ⟨rfl, isTableOf_mapValues (h.isRecord_viewProperty name body)⟩ .nil⟩ .nil

theorem isDatasetSchema (h : Clean config) :
    IsDatasetSchema (DatasetSchema.ofConfig config).toValue := by
  have hfields : ∀ e ∈ (DatasetSchema.ofConfig config).fields, IsFieldSchema e.2.toValue := by
    intro e he
    obtain ⟨⟨name, d⟩, hd, rfl⟩ := List.mem_map.mp he
    exact isFieldSchema (h.declarations (name, d) hd) (.scalar name)
  have hviews : ∀ e ∈ (DatasetSchema.ofConfig config).views, IsView e.2.toValue := by
    intro e he
    obtain ⟨⟨name, body⟩, hbody, rfl⟩ := List.mem_map.mp he
    exact h.isView (h.views (name, body) hbody) (.scalar name)
  exact isRecord_ofFields <|
    .cons ⟨rfl, 1, rfl⟩ <|
    .cons ⟨rfl, isRecord_ofFields <|
      .cons ⟨rfl, isText_str _⟩ <|
      .cons ⟨rfl, isText_str _⟩ <|
      .cons ⟨rfl, isTableOf_mapValues hfields⟩ .nil⟩ <|
    .cons ⟨rfl, isTableOf_mapValues hviews⟩ .nil

theorem isOutputSchema (h : Clean config) :
    IsOutputSchema (OutputSchema.ofConfig config).toValue := by
  have hproperties : (OutputSchema.ofConfig config).properties.IsTableOf IsAny := by
    have hdeclared : OrNull (IsTableOf IsAny) ((Config.output config).field "properties") :=
      h.output.properties.field (.inl rfl)
    rw [OutputSchema.ofConfig]
    split
    · exact ⟨_, rfl, fun e he => trivial⟩
    · next hset =>
        rcases hdeclared with hnull | htable
        · rw [hnull] at hset
          exact absurd rfl hset
        · exact htable
  exact isRecord_ofFields <|
    .cons ⟨rfl, 1, rfl⟩ <|
    .cons ⟨rfl, h.output.title.getD (isText_str _)⟩ <|
    .cons ⟨rfl, h.output.description.getD (isText_str _)⟩ <|
    .cons ⟨rfl, hproperties⟩ .nil

end Config.Clean

namespace Documents

structure WellShaped (documents : Documents) : Prop where
  manifest : documents.manifest.toValue.IsManifest
  inputSchema : documents.inputSchema.toValue.IsInputSchema
  datasetSchema : documents.datasetSchema.toValue.IsDatasetSchema
  outputSchema : documents.outputSchema.toValue.IsOutputSchema

/-- A config that the lint passes makes four documents of their shapes, whether or not its references
are sound: a view may still list fields that the dataset does not have. The accepted shapes of the
sections are collected in `Config.Clean`, and every document is made of clean sections alone. -/
theorem wellShaped_of_lint {config : Value} (h : Lint.issues config = []) :
    (ofConfig config).WellShaped :=
  have hclean : Config.Clean config := Config.clean_of_issues h
  { manifest := hclean.isManifest
    inputSchema := hclean.isInputSchema
    datasetSchema := hclean.isDatasetSchema
    outputSchema := hclean.isOutputSchema }

/-- One attribute of every kind: named and asked for by shorthand, given and left out, and a field that
only a group declares. -/
def listing : Value := .ofFields [
  ("actor", .ofFields [("name", .str "listing"), ("build_tag", .str "")]),
  ("input", .ofFields [
    ("fields", .ofFields [
      ("pages", .ofFields [("type", .str "integer"), ("minLength", .int 0)]),
      ("query", .null)]),
    ("required", .list [.str "pages"])]),
  ("dataset", .ofFields [
    ("fields", .ofFields [("photos", .ofFields [("array", .bool true), ("desc", .str "All")])]),
    ("field_groups", .ofFields [
      ("seller", .ofFields [
        ("seller_url", .ofFields [("label", .str "Seller"), ("nullable", .bool false)])])]),
    ("views", .ofFields [
      ("overview", .ofFields [("fields", .list [.str "photos", .str "seller_url", .str "price"])])])]),
  ("output", .null)]

theorem listing_wellShaped : Lint.issues listing = [] ∧ (ofConfig listing).WellShaped :=
  have hclean : Lint.issues listing = [] := by decide +kernel
  ⟨hclean, wellShaped_of_lint hclean⟩

end Documents

end ActorSpec
