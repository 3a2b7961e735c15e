import ActorSpec.Proofs.StartingValues
import Mathlib.Data.List.Forall2

/-!
# Input properties

A property of the input schema has four inferred attributes and, behind them, the constraints that its
field declares, by key and whatever the value (`IsPropertyOf`). Type and editor are inferred on their own,
but the editor asks for the type in the same way as the property does, so it fits the type that is
there. Nothing else in a declaration matters: declarations that agree on the attributes that are read
give one property (`Declaration.AgreeOn`, `InputProperty.ofField_congr`).
-/

namespace ActorSpec

namespace Declaration

variable {d d' : Declaration}

/-- A single rule gives what is declared. -/
theorem resolve_of_steps_eq {i : Inference} {key : String} (h : i.steps = [.declared key])
    (name : Value) (d : Declaration) : i.resolve name d = (d.declared? key).getD (i.fallback d) := by
  rw [Inference.resolve, h, FallbackRule.resolve?, List.find?_cons]
  cases hd : d.declared? key with
  | none => simp [FallbackRule.declared, hd]
  | some v => simp [FallbackRule.declared, hd, Mapping.field_of_declared? hd]

theorem inputType_eq (d : Declaration) :
    Declaration.inputType d = (d.declared? "type").getD (.str "string") :=
  resolve_of_steps_eq rfl _ d

theorem editor_eq (d : Declaration) :
    Declaration.editor d = (d.declared? "editor").getD (.str (editorForType (inputType d))) :=
  resolve_of_steps_eq rfl _ d

/-- Two declarations declare the same for some attributes. -/
def AgreeOn (keys : List String) (d d' : Declaration) : Prop :=
  ∀ key ∈ keys, d.get? (.str key) = d'.get? (.str key)

theorem AgreeOn.declared? {keys : List String} (h : AgreeOn keys d d') (key : String)
    (hkey : key ∈ keys) : d.declared? key = d'.declared? key := by
  rw [Mapping.declared?, Mapping.declared?, h key hkey]

theorem AgreeOn.constraints {keys : List String} (h : AgreeOn keys d d')
    (hkeys : ∀ key ∈ constraintKeys, key ∈ keys) :
    Declaration.constraints d = Declaration.constraints d' := by
  rw [Declaration.constraints, Declaration.constraints]
  refine List.filterMap_congr fun key hkey => ?_
  rw [h key (hkeys key hkey)]

/-- The keys of the constraints are the ones that are declared. -/
theorem map_fst_constraints (d : Declaration) :
    (Declaration.constraints d).map (·.1) =
      constraintKeys.filter fun key => Mapping.contains d (.str key) := by
  rw [Declaration.constraints]
  induction constraintKeys with
  | nil => rfl
  | cons key rest ih =>
      rw [List.filterMap_cons, List.filter_cons, ← Mapping.isSome_get?]
      cases d.get? (.str key) with
      | none => exact ih
      | some v => exact congrArg _ ih

end Declaration

/-- The editor that an input form shows for a type. -/
theorem editorForType_eq (type : Value) :
    editorForType type = match type with
      | .str "integer" | .str "number" => "number"
      | .str "boolean" => "checkbox"
      | .str "array" => "stringList"
      | _ => "textfield" := by
  rw [editorForType, Kind.ofValue?_eq]
  split
  case h_7 hstring hinteger hnumber hboolean harray hobject => simp_all
  all_goals rfl

/-! ## Properties -/

/-- The attributes that an input property is made from. -/
def InputProperty.readKeys : List String :=
  ["type", "title", "description", "desc", "editor"] ++ Declaration.constraintKeys

/-- The property of a field with a declaration. -/
structure IsPropertyOf (d : Declaration) (property : Value) : Prop where
  keys : property.asMapping.keys = (["title", "type", "description", "editor"]
    ++ ["sectionCaption", "prefill", "default", "minLength", "maxLength", "minimum", "maximum",
      "enum"].filter fun key => Mapping.contains d (.str key)).map Scalar.str
  constraint : ∀ key ∈ ["sectionCaption", "prefill", "default", "minLength", "maxLength", "minimum",
    "maximum", "enum"], property.asMapping.get? (.str key) = d.get? (.str key)
  type : property.asMapping.get? (.str "type") = some ((d.declared? "type").getD (.str "string"))
  editor : d.declared? "editor" = none → ∀ type, property.asMapping.get? (.str "type") = some type →
    property.asMapping.get? (.str "editor") = some (.str (match type with
      | .str "integer" | .str "number" => "number"
      | .str "boolean" => "checkbox"
      | .str "array" => "stringList"
      | _ => "textfield"))

namespace InputProperty

variable {d d' : Declaration}

theorem isPropertyOf_ofField (name : Value) (d : Declaration) :
    IsPropertyOf d (ofField name d).toValue where
  keys := by
    have hnames : ∀ fields : List (String × Value), (Value.ofFields fields).asMapping.keys =
        (fields.map (·.1)).map Scalar.str := fun fields => by
      rw [Value.ofFields, Value.asMapping, Mapping.keys, List.map_map, List.map_map]
      rfl
    have hconstraints : (ofField name d).constraints.map (·.1) =
        Declaration.constraintKeys.filter fun key => Mapping.contains d (.str key) :=
      Declaration.map_fst_constraints d
    rw [toValue, hnames, List.map_append, hconstraints]
    rfl
  constraint _ hkey := get?_constraint name d hkey
  type := by
    rw [get?_toValue]
    exact congrArg some (Declaration.inputType_eq d)
  editor hnone type htype := by
    rw [get?_toValue] at htype ⊢
    obtain rfl : Declaration.inputType d = type := Option.some.inj htype
    have heditor := Declaration.editor_eq d
    rw [hnone, editorForType_eq] at heditor
    exact congrArg some heditor

/-- What is not read does not matter. -/
theorem ofField_congr (name : Value) (h : Declaration.AgreeOn readKeys d d') :
    ofField name d = ofField name d' := by
  have hconstraints : Declaration.constraints d = Declaration.constraints d' :=
    h.constraints fun key hkey => List.mem_append_right _ hkey
  have htype : Declaration.inputType d = Declaration.inputType d' := by
    rw [Declaration.inputType_eq, Declaration.inputType_eq, h.declared? "type" (by decide)]
  have hdescription : Declaration.description d = Declaration.description d' := by
    rw [Declaration.description, Declaration.description,
      h.declared? "description" (by decide), h.declared? "desc" (by decide)]
  have heditor : Declaration.editor d = Declaration.editor d' := by
    rw [Declaration.editor_eq, Declaration.editor_eq, h.declared? "editor" (by decide), htype]
  have htitle : Declaration.title d name = Declaration.title d' name := by
    rw [Declaration.title, Declaration.title, h.declared? "title" (by decide)]
  simp only [ofField, Declaration.describe, hconstraints, htype, hdescription, heditor, htitle]

end InputProperty

namespace InputSchema

/-- The entry of a field in the input schema, read off its entry in the config. -/
def entryOf (field : Scalar × Value) : Scalar × Value :=
  (field.1, (InputProperty.ofField (.scalar field.1) field.2.asMapping).toValue)

theorem listed_eq_map (config : Value) : listed (ofConfig config).toValue =
    ((Config.input config).field "fields").asMapping.map entryOf := by
  rw [listed_toValue, Config.inputFields, declarationsOf, Mapping.mapValues, List.map_map]
  rfl

/-- The input schema has one property for every field of the input, in their order. It carries the
constraints that the field declares and no other attribute, and its editor fits its type unless one is
declared. Fields that agree on what is read have the same properties. The properties are a map over the
fields, so one field is looked at (`InputProperty.isPropertyOf_ofField`). -/
theorem properties_exact (config : Value) :
    let fields := ((Config.input config).field "fields").asMapping
    let properties := listed (ofConfig config).toValue
    properties.keys = fields.keys
    ∧ List.Forall₂ (fun field property => property.1 = field.1
        ∧ IsPropertyOf field.2.asMapping property.2) fields properties
    ∧ ∀ config', List.Forall₂ (fun field field' => field.1 = field'.1
          ∧ ∀ key ∈ ["type", "title", "description", "desc", "editor", "sectionCaption", "prefill",
              "default", "minLength", "maxLength", "minimum", "maximum", "enum"],
            field.2.asMapping.get? (.str key) = field'.2.asMapping.get? (.str key))
        fields ((Config.input config').field "fields").asMapping →
        listed (ofConfig config').toValue = properties := by
  intro fields properties
  have hproperties : properties = fields.map entryOf := listed_eq_map config
  refine ⟨?_, ?_, fun config' hagree => ?_⟩
  · rw [hproperties, Mapping.keys, List.map_map]
    rfl
  · rw [hproperties, List.forall₂_map_right_iff]
    exact List.forall₂_same.mpr fun f _ => ⟨rfl, InputProperty.isPropertyOf_ofField _ _⟩
  · have hsame : List.Forall₂ Eq (fields.map entryOf)
        (((Config.input config').field "fields").asMapping.map entryOf) := by
      rw [List.forall₂_map_left_iff, List.forall₂_map_right_iff]
      refine hagree.imp fun f f' h => ?_
      rw [entryOf, entryOf, h.1, InputProperty.ofField_congr _ h.2]
    rw [List.forall₂_eq_eq_eq] at hsame
    rw [hproperties, listed_eq_map]
    exact hsame.symm

/-- Attributes that are empty but there, and some that an input property has no use for. -/
def adornedInput : Value := .ofFields [("input", .ofFields [("fields", .ofFields [
  ("pages", .ofFields [("array", .bool true), ("type", .str "integer"), ("enum", .list []),
    ("default", .null), ("group", .str "paging"), ("nullable", .bool false)]),
  ("note", .null)])])]

def bareInput : Value := .ofFields [("input", .ofFields [("fields", .ofFields [
  ("pages", .ofFields [("type", .str "integer"), ("default", .null), ("enum", .list [])]),
  ("note", .list [])])])]

/-- Both inputs have one schema, whose constraints are in an order of their own. -/
theorem adornedInput_exact :
    listed (ofConfig bareInput).toValue = listed (ofConfig adornedInput).toValue
    ∧ ∃ property, (.str "pages", property) ∈ listed (ofConfig adornedInput).toValue
      ∧ property.asMapping.keys = [.str "title", .str "type", .str "description", .str "editor",
          .str "default", .str "enum"]
      ∧ property.asMapping.get? (.str "editor") = some (.str "number") := by
  obtain ⟨-, hproperties, hsame⟩ := properties_exact adornedInput
  constructor
  · refine hsame bareInput (.cons ⟨rfl, ?_⟩ (.cons ⟨rfl, fun _ _ => rfl⟩ .nil))
    simp only [List.forall_mem_cons]
    exact ⟨rfl, rfl, rfl, rfl, rfl, rfl, rfl, rfl, rfl, rfl, rfl, rfl, rfl,
      fun _ hnone => absurd hnone List.not_mem_nil⟩
  · obtain ⟨⟨name, property⟩, rest, ⟨rfl, hpages⟩, -, hlisted⟩ :=
      List.forall₂_cons_left_iff.mp hproperties
    rw [hlisted]
    exact ⟨property, List.mem_cons_self .., hpages.keys, hpages.editor rfl _ hpages.type⟩

end InputSchema

end ActorSpec
