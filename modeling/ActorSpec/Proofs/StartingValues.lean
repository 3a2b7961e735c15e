import ActorSpec.Document.DefaultInput
import ActorSpec.Proofs.WellFormed

/-!
# The default input read off the input schema

The input of a local run and the input schema are made from the same fields and know nothing of each
other. Here the first is read off the second: a property has all that decides what its field starts
from (`InputProperty.startingValue?`), because constraints are carried over by key and not by truth,
and because both sides infer the type of an input field in the same way. The default input is then the
starting values of the listed properties with the overrides of the config laid over them
(`DefaultInput.ofConfig_reads_inputSchema`).
-/

namespace ActorSpec

/-! ## Properties as documents -/

/-- The constraints of a property are those of its field, under the same keys. -/
theorem Declaration.lookup_constraints (d : Declaration) (key : String) :
    (Declaration.constraints d).lookup key =
      if key ∈ constraintKeys then d.get? (.str key) else none := by
  rw [constraints]
  induction constraintKeys with
  | nil => rfl
  | cons k rest ih =>
      rw [List.filterMap_cons]
      by_cases h : key = k
      · subst h
        cases hd : d.get? (.str key) with
        | none => simpa [hd] using ih
        | some v => simp
      · cases hd : d.get? (.str k) with
        | none => simpa [h] using ih
        | some v => simpa [h, List.lookup_cons, beq_false_of_ne h] using ih

/-- The properties that an input schema lists, field by field. -/
def InputSchema.listed (document : Value) : Mapping Value :=
  (document.asMapping.field "properties").asMapping

theorem InputSchema.listed_toValue (config : Value) :
    listed (ofConfig config).toValue = (Config.inputFields config).map fun f =>
      (f.1, (InputProperty.ofField (.scalar f.1) f.2).toValue) := by
  have hproperties : (ofConfig config).toValue.asMapping.field "properties" =
      .mapping ((ofConfig config).properties.mapValues InputProperty.toValue) := by
    rw [Mapping.field, toValue, Mapping.get?_ofFields]
    rfl
  rw [listed, hproperties, Value.asMapping, Mapping.mapValues, ofConfig, List.map_map]
  rfl

theorem InputSchema.listed_distinct {config : Value} (h : config.WellFormed) :
    (listed (ofConfig config).toValue).Distinct := by
  have hkeys : (listed (ofConfig config).toValue).keys = (Config.inputFields config).keys := by
    rw [listed_toValue, Mapping.keys, List.map_map]
    rfl
  rw [Mapping.Distinct, hkeys]
  exact ((h.field "input").field "fields").asMapping_distinct.mapValues _

/-! ## Starting values -/

/-- The six types by their names. -/
theorem Kind.ofValue?_eq (type : Value) :
    ofValue? type = match type with
      | .str "string" => some .string
      | .str "integer" => some .integer
      | .str "number" => some .number
      | .str "boolean" => some .boolean
      | .str "array" => some .array
      | .str "object" => some .object
      | _ => none := by
  split
  case h_7 hstring hinteger hnumber hboolean harray hobject =>
    unfold ofValue?
    split
    · next s =>
        rw [ofName?, List.find?_eq_none]
        intro k _ hname
        obtain rfl := of_decide_eq_true hname
        cases k
        · exact hstring rfl
        · exact hinteger rfl
        · exact hnumber rfl
        · exact hboolean rfl
        · exact harray rfl
        · exact hobject rfl
    · rfl
  all_goals rfl

/-- The zero of a type, by the name of the type. -/
theorem zeroValue?_eq (type : Value) :
    zeroValue? type = match type with
      | .str "boolean" => some (.bool false)
      | .str "integer" => some (.int 0)
      | .str "number" => some (.int 0)
      | .str "array" => some (.list [])
      | _ => none := by
  rw [zeroValue?, Kind.ofValue?_eq]
  split
  case h_7 hstring hinteger hnumber hboolean harray hobject => simp_all
  all_goals rfl

namespace InputProperty

/-- What a field starts from, read off its property in the input schema: its default if it has one,
whatever the value, else its prefill, else the zero of its type. Texts, objects and all that names no
type start from nothing. -/
def startingValue? (property : Value) : Option Value :=
  let p := property.asMapping
  match p.get? (.str "default"), p.get? (.str "prefill"), p.get? (.str "type") with
  | some v, _, _ => some v
  | none, some v, _ => some v
  | none, none, some (.str "boolean") => some (.bool false)
  | none, none, some (.str "integer") => some (.int 0)
  | none, none, some (.str "number") => some (.int 0)
  | none, none, some (.str "array") => some (.list [])
  | none, none, _ => none

theorem get?_toValue (p : InputProperty) (key : String) :
    p.toValue.asMapping.get? (.str key) =
      (([("title", p.title), ("type", p.type), ("description", p.description),
        ("editor", p.editor)] : List (String × Value)).lookup key).or
          (p.constraints.lookup key) := by
  rw [toValue, Mapping.get?_ofFields, List.lookup_append]

/-- A constraint is there exactly if it is declared, and with the value that is declared. -/
theorem get?_constraint (name : Value) (d : Declaration) {key : String}
    (h : key ∈ Declaration.constraintKeys) :
    (ofField name d).toValue.asMapping.get? (.str key) = d.get? (.str key) := by
  have hinferred : ∀ (p : InputProperty), ∀ key ∈ Declaration.constraintKeys,
      ([("title", p.title), ("type", p.type), ("description", p.description),
        ("editor", p.editor)] : List (String × Value)).lookup key = none := by
    intro p
    simp only [Declaration.constraintKeys, List.forall_mem_cons]
    exact ⟨rfl, rfl, rfl, rfl, rfl, rfl, rfl, rfl, fun _ hnone => absurd hnone List.not_mem_nil⟩
  rw [get?_toValue, hinferred _ key h, Option.none_or]
  exact (Declaration.lookup_constraints d key).trans (if_pos h)

/-- A property tells of its field what the default input asks of it. -/
theorem startingValue?_ofField (name : Value) (d : Declaration) :
    startingValue? (ofField name d).toValue = DefaultInput.derived? d := by
  have htype : (ofField name d).toValue.asMapping.get? (.str "type") =
      some (Declaration.inputType d) := by
    rw [get?_toValue]
    rfl
  rw [startingValue?, get?_constraint name d (by decide), get?_constraint name d (by decide), htype,
    DefaultInput.derived?, zeroValue?_eq]
  cases d.get? (.str "default") with
  | some v => rfl
  | none =>
      cases d.get? (.str "prefill") with
      | some v => rfl
      | none =>
          simp only [Option.or_none, Option.none_or]
          split <;> simp_all

end InputProperty

/-! ## The default input -/

namespace DefaultInput

/-- The starting values of the properties that have one, under the names of the fields. -/
def started (properties : Mapping Value) : Mapping Value :=
  properties.filterMap fun p => (InputProperty.startingValue? p.2).map (p.1, ·)

theorem ofConfig_eq (config : Value) :
    ofConfig config =
      (started (InputSchema.listed (InputSchema.ofConfig config).toValue)).update
        (Config.inputDefaults config) := by
  rw [ofConfig, started, InputSchema.listed_toValue, List.filterMap_map]
  simp only [Function.comp_def, InputProperty.startingValue?_ofField]

/-- The default input against the input schema and the overrides of the config. A name that is
overridden has the value of the override; any other has what its property in the input schema starts
from, and is absent if that is nothing or if there is no such property. The names come in the order of
the properties, those of the overrides behind them. The input is one update of the starting values, so
the laws of `Mapping.update` give the values and the order. -/
theorem ofConfig_reads_inputSchema (config : Value) (h : config.WellFormed) :
    let properties := InputSchema.listed (InputSchema.ofConfig config).toValue
    let overrides := Config.inputDefaults config
    let input := ofConfig config
    let derived :=
      (properties.filter fun p => (InputProperty.startingValue? p.2).isSome).map (·.1)
    (∀ name, input.get? name =
      if overrides.contains name then overrides.get? name
      else (properties.get? name).bind InputProperty.startingValue?)
    ∧ input.keys =
        derived ++ overrides.keys.filter fun name => !derived.any (·.same name) := by
  intro properties overrides input derived
  have hoverrides : overrides.Distinct :=
    ((h.field "input").field "defaults").asMapping_distinct
  have hproperties : properties.Distinct := InputSchema.listed_distinct h
  have hinput : input = (started properties).update overrides := ofConfig_eq config
  have hderived : (started properties).keys = derived := Mapping.keys_filterMap ..
  constructor
  · intro name
    rw [hinput, Mapping.get?_update hoverrides, started, Mapping.get?_filterMap hproperties,
      ← Mapping.isSome_get?]
    cases overrides.get? name <;> rfl
  · rw [hinput, Mapping.keys_update hoverrides, hderived]
    simp only [Mapping.contains_eq_any_keys, hderived]

/-- Fields with a null default, with a prefill, and with a type alone; an override of one of them and
one of no field. -/
def trial : Value := .ofFields [("input", .ofFields [
  ("fields", .ofFields [
    ("pages", .ofFields [("type", .str "integer"), ("default", .null), ("prefill", .int 3)]),
    ("query", .ofFields [("prefill", .str "")]),
    ("deep", .ofFields [("type", .str "boolean")]),
    ("tags", .ofFields [("array", .bool true)]),
    ("limit", .ofFields [("type", .str "number")])]),
  ("defaults", .ofFields [("debug", .bool true), ("deep", .str "yes")])])]

theorem trial_input :
    trial.WellFormed
    ∧ (ofConfig trial).keys =
        [.str "pages", .str "query", .str "deep", .str "limit", .str "debug"]
    ∧ (ofConfig trial).get? (.str "pages") = some .null
    ∧ (ofConfig trial).get? (.str "deep") = some (.str "yes")
    ∧ (ofConfig trial).get? (.str "tags") = none := by
  have hw : trial.WellFormed := Value.wellFormed_of_isWellFormed _ (by decide)
  obtain ⟨hget, hkeys⟩ := ofConfig_reads_inputSchema trial hw
  refine ⟨hw, hkeys.trans (by decide), ?_, ?_, ?_⟩
  · exact (hget (.str "pages")).trans rfl
  · exact (hget (.str "deep")).trans rfl
  · exact (hget (.str "tags")).trans rfl

end DefaultInput

end ActorSpec
