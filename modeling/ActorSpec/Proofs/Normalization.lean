import ActorSpec.Proofs.Operations

/-!
# Malformed parts are empty parts

A config is outlined by what its parts are read as: records with some entries, tables with entries
that are all alike, and lists (`Config.outline`). Normalizing it replaces every part that is not what
the outline says by an empty one, and keeps the others (`Config.fits_normalize`). No operation can tell
the difference (`Operation.run_normalize`), in however many places at once the config is malformed: an
entry of a normal record is read as the entry itself is (`Outline.asMapping_field`,
`Outline.asList_field`), so each section of a config is what it was, and the operations read nothing but
sections.
-/

namespace ActorSpec

/-! ## Outlines -/

/-- What a value is read as. -/
inductive Outline where
  | list
  /-- A mapping, and what the entries with some keys are read as. -/
  | record (parts : List (String × Outline))
  /-- A mapping, and what each of its entries is read as. -/
  | table (entry : Outline)

mutual

/-- A value of another kind becomes empty. A tuple is as good as a list; absent entries stay absent,
and entries that are not outlined stay as they are. -/
def Outline.normalize : Outline → Value → Value
  | .list, v =>
    match v with
    | .list _ | .tuple _ => v
    | _ => .list []
  | .record parts, v => .mapping (v.asMapping.map fun e => (e.1, normalizePart parts e.1 e.2))
  | .table entry, v => .mapping (v.asMapping.mapValues entry.normalize)

def normalizePart : List (String × Outline) → Scalar → Value → Value
  | [], _, v => v
  | (name, outline) :: rest, key, v =>
    if key = .str name then outline.normalize v else normalizePart rest key v

end

mutual

/-- The value is of the kind that the outline says, and so are the outlined values in it. -/
def Outline.Fits : Outline → Value → Prop
  | .list, v => (∃ items, v = .list items) ∨ ∃ items, v = .tuple items
  | .record parts, v => ∃ m, v = .mapping m ∧ ∀ e ∈ m, PartFits parts e.1 e.2
  | .table entry, v => ∃ m, v = .mapping m ∧ ∀ e ∈ m, entry.Fits e.2

def PartFits : List (String × Outline) → Scalar → Value → Prop
  | [], _, _ => True
  | (name, outline) :: rest, key, v =>
    if key = .str name then outline.Fits v else PartFits rest key v

end

theorem Mapping.map_eq_self {α : Type} {m : Mapping α} (f : Scalar → α → α)
    (h : ∀ e ∈ m, f e.1 e.2 = e.2) : m.map (fun e => (e.1, f e.1 e.2)) = m :=
  (List.map_congr_left fun e he => by rw [h e he]).trans (List.map_id' m)

namespace Outline

mutual

theorem fits_normalize : ∀ (o : Outline) (v : Value), o.Fits (o.normalize v)
  | .list, v => by cases v <;> simp [normalize, Fits]
  | .record parts, v => by
      rw [normalize, Fits]
      exact ⟨_, rfl, List.forall_mem_map.mpr fun e _ => partFits_normalizePart parts e.1 e.2⟩
  | .table entry, v => by
      rw [normalize, Fits]
      exact ⟨_, rfl, List.forall_mem_map.mpr fun e _ => entry.fits_normalize e.2⟩

theorem partFits_normalizePart : ∀ (parts : List (String × Outline)) (key : Scalar) (v : Value),
    PartFits parts key (normalizePart parts key v)
  | [], _, _ => by rw [PartFits]; trivial
  | (name, outline) :: rest, key, v => by
      rw [PartFits, normalizePart]
      by_cases hkey : key = .str name
      · rw [if_pos hkey, if_pos hkey]
        exact outline.fits_normalize v
      · rw [if_neg hkey, if_neg hkey]
        exact partFits_normalizePart rest key v

end

mutual

theorem normalize_of_fits : ∀ {o : Outline} {v : Value}, o.Fits v → o.normalize v = v
  | .list, v, h => by
      rw [Fits] at h
      rcases h with ⟨items, rfl⟩ | ⟨items, rfl⟩ <;> rfl
  | .record parts, v, h => by
      rw [Fits] at h
      obtain ⟨m, rfl, hparts⟩ := h
      rw [normalize]
      exact congrArg Value.mapping
        (Mapping.map_eq_self (normalizePart parts) fun e he => normalizePart_of_partFits (hparts e he))
  | .table entry, v, h => by
      rw [Fits] at h
      obtain ⟨m, rfl, hentries⟩ := h
      rw [normalize]
      exact congrArg Value.mapping
        (Mapping.map_eq_self (fun _ => entry.normalize) fun e he => normalize_of_fits (hentries e he))

theorem normalizePart_of_partFits : ∀ {parts : List (String × Outline)} {key : Scalar} {v : Value},
    PartFits parts key v → normalizePart parts key v = v
  | [], _, _, _ => by rw [normalizePart]
  | (name, outline) :: rest, key, v, h => by
      rw [PartFits] at h
      rw [normalizePart]
      by_cases hkey : key = .str name
      · rw [if_pos hkey] at h ⊢
        exact normalize_of_fits h
      · rw [if_neg hkey] at h ⊢
        exact normalizePart_of_partFits h

end

/-- What fits is kept, and nothing else is. -/
theorem normalize_eq_self_iff {o : Outline} {v : Value} : o.normalize v = v ↔ o.Fits v :=
  ⟨fun h => h ▸ o.fits_normalize v, normalize_of_fits⟩

theorem normalizePart_str (parts : List (String × Outline)) (key : String) (v : Value) :
    normalizePart parts (.str key) v =
      match parts.lookup key with
      | some outline => outline.normalize v
      | none => v := by
  induction parts with
  | nil => rw [normalizePart, List.lookup_nil]
  | cons part rest ih =>
      obtain ⟨name, outline⟩ := part
      rw [normalizePart, List.lookup_cons]
      by_cases h : key = name
      · subst h
        simp
      · have hkey : Scalar.str key ≠ .str name := fun heq => h (Scalar.str.inj heq)
        have hbeq : (key == name) = false := beq_false_of_ne h
        rw [if_neg hkey, ih, hbeq]

@[simp] theorem asMapping_record (parts : List (String × Outline)) (v : Value) :
    ((record parts).normalize v).asMapping =
      v.asMapping.map fun e => (e.1, normalizePart parts e.1 e.2) := by
  rw [normalize]
  rfl

@[simp] theorem asMapping_table (entry : Outline) (v : Value) :
    ((table entry).normalize v).asMapping = v.asMapping.mapValues entry.normalize := by
  rw [normalize]
  rfl

/-- A record without outlined entries loses nothing. -/
@[simp] theorem asMapping_record_nil (v : Value) :
    ((record []).normalize v).asMapping = v.asMapping := by
  simp [normalizePart]

@[simp] theorem asList_list (v : Value) : (list.normalize v).asList = v.asList := by
  cases v <;> rfl

/-! ## Entries of normal records -/

variable {parts : List (String × Outline)} {key : String} {outline : Outline}

theorem get?_of_lookup_none (h : parts.lookup key = none) (v : Value) :
    ((record parts).normalize v).asMapping.get? (.str key) = v.asMapping.get? (.str key) := by
  have hpart : normalizePart parts (.str key) = id := by
    funext part
    rw [normalizePart_str, h]
    rfl
  rw [asMapping_record, Mapping.get?_map_str, hpart, Option.map_id_fun, id]

theorem field_of_lookup (h : parts.lookup key = some outline) (v : Value) :
    ((record parts).normalize v).asMapping.field key =
      ((v.asMapping.get? (.str key)).map outline.normalize).getD .null := by
  have hpart : normalizePart parts (.str key) = outline.normalize := by
    funext part
    rw [normalizePart_str, h]
  rw [asMapping_record, Mapping.field, Mapping.get?_map_str, hpart]

/-- An entry that is absent is read like one that is normal and empty. -/
theorem asMapping_field (h : parts.lookup key = some outline) (v : Value) :
    (((record parts).normalize v).asMapping.field key).asMapping =
      (outline.normalize (v.asMapping.field key)).asMapping := by
  rw [field_of_lookup h, Mapping.field]
  cases v.asMapping.get? (.str key) with
  | none => cases outline <;> rfl
  | some part => rfl

theorem asList_field (h : parts.lookup key = some .list) (v : Value) :
    (((record parts).normalize v).asMapping.field key).asList = (v.asMapping.field key).asList := by
  rw [field_of_lookup h, Mapping.field]
  cases v.asMapping.get? (.str key) with
  | none => rfl
  | some part => exact asList_list part

end Outline

/-! ## Normal configs -/

namespace Config

/-- Fields by their names; what a field declares is not looked at. -/
def fieldsOutline : Outline := .table (.record [])

def inputOutline : Outline := .record [
  ("fields", fieldsOutline),
  ("required", .list),
  ("defaults", .record [])]

def viewOutline : Outline := .record [("fields", .list)]

def datasetOutline : Outline := .record [
  ("fields", fieldsOutline),
  ("field_groups", .table fieldsOutline),
  ("views", .table viewOutline)]

def outline : Outline := .record [
  ("actor", .record []),
  ("input", inputOutline),
  ("dataset", datasetOutline),
  ("output", .record [])]

/-- The config with every malformed part replaced by an empty one. -/
def normalize (config : Value) : Value := outline.normalize config

variable (config : Value)

/-- In a normal config every part is what it is read as, and a config of such parts is kept. -/
theorem fits_normalize : outline.Fits (normalize config)
    ∧ (normalize config = config ↔ outline.Fits config) :=
  ⟨outline.fits_normalize config, Outline.normalize_eq_self_iff⟩

theorem isEmpty_normalize :
    (normalize config).asMapping.isEmpty = config.asMapping.isEmpty := by
  rw [normalize, outline, Outline.asMapping_record, List.isEmpty_map]

@[simp] theorem actor_normalize : actor (normalize config) = actor config :=
  (Outline.asMapping_field (by rfl) config).trans (Outline.asMapping_record_nil _)

@[simp] theorem output_normalize : output (normalize config) = output config :=
  (Outline.asMapping_field (by rfl) config).trans (Outline.asMapping_record_nil _)

theorem input_normalize :
    input (normalize config) = (inputOutline.normalize (config.asMapping.field "input")).asMapping :=
  Outline.asMapping_field (by rfl) config

theorem dataset_normalize :
    dataset (normalize config) =
      (datasetOutline.normalize (config.asMapping.field "dataset")).asMapping :=
  Outline.asMapping_field (by rfl) config

@[simp] theorem declarationsOf_normalize (fields : Value) :
    declarationsOf (fieldsOutline.normalize fields) = declarationsOf fields := by
  have hbody : Value.asMapping ∘ (Outline.record []).normalize = Value.asMapping :=
    funext Outline.asMapping_record_nil
  rw [declarationsOf, fieldsOutline, Outline.asMapping_table, Mapping.mapValues, Mapping.mapValues,
    List.map_map]
  exact congrArg (fun f => fields.asMapping.map fun e : Scalar × Value => (e.1, f e.2)) hbody

theorem declarationsOf_field {parts : List (String × Outline)} {key : String}
    (h : parts.lookup key = some fieldsOutline) (v : Value) :
    declarationsOf (((Outline.record parts).normalize v).asMapping.field key) =
      declarationsOf (v.asMapping.field key) := by
  rw [← declarationsOf_normalize (v.asMapping.field key), declarationsOf, declarationsOf,
    Outline.asMapping_field h]

@[simp] theorem inputFields_normalize : inputFields (normalize config) = inputFields config := by
  rw [inputFields, input_normalize]
  exact declarationsOf_field (by rfl) _

@[simp] theorem requiredInputs_normalize :
    requiredInputs (normalize config) = requiredInputs config := by
  rw [requiredInputs, input_normalize]
  exact Outline.asList_field (by rfl) _

@[simp] theorem inputDefaults_normalize :
    inputDefaults (normalize config) = inputDefaults config := by
  rw [inputDefaults, input_normalize]
  exact (Outline.asMapping_field (by rfl) _).trans (Outline.asMapping_record_nil _)

@[simp] theorem baseFields_normalize : baseFields (normalize config) = baseFields config := by
  rw [baseFields, dataset_normalize]
  exact declarationsOf_field (by rfl) _

theorem fieldGroups_normalize :
    fieldGroups (normalize config) = (fieldGroups config).mapValues fieldsOutline.normalize := by
  rw [fieldGroups, dataset_normalize]
  exact (Outline.asMapping_field (by rfl) _).trans (Outline.asMapping_table ..)

theorem views_normalize :
    views (normalize config) = (views config).mapValues viewOutline.normalize := by
  rw [views, dataset_normalize]
  exact (Outline.asMapping_field (by rfl) _).trans (Outline.asMapping_table ..)

@[simp] theorem viewFields_normalize (body : Value) :
    viewFields (viewOutline.normalize body) = viewFields body :=
  Outline.asList_field (by rfl) body

end Config

/-! ## Operations on normal configs -/

section

variable (config : Value)

@[simp] theorem Aggregate.ofConfig_normalize :
    Aggregate.ofConfig (Config.normalize config) = .ofConfig config := by
  rw [ofConfig, Config.fieldGroups_normalize, Mapping.mapValues, List.foldl_map]
  simp [ofConfig]

theorem Manifest.ofConfig_normalize :
    Manifest.ofConfig (Config.normalize config) = .ofConfig config := by
  rw [ofConfig, Config.actor_normalize]
  rfl

theorem InputSchema.ofConfig_normalize :
    InputSchema.ofConfig (Config.normalize config) = .ofConfig config := by
  simp [ofConfig, titleOfActor]

theorem OutputSchema.ofConfig_normalize :
    OutputSchema.ofConfig (Config.normalize config) = .ofConfig config := by
  rw [ofConfig, Config.output_normalize]
  rfl

namespace View

theorem declared?_normalize (body : Value) {key : String} (h : key ≠ "fields") :
    (Config.viewOutline.normalize body).asMapping.declared? key = body.asMapping.declared? key := by
  have hlookup : [("fields", Outline.list)].lookup key = none := by
    rw [List.lookup_cons, beq_false_of_ne h]
    rfl
  have hget := Outline.get?_of_lookup_none hlookup body
  exact congrArg (Option.filter Value.truthy) hget

theorem ofConfig_normalize (all : Aggregate) (name body : Value) :
    View.ofConfig all name (Config.viewOutline.normalize body) = .ofConfig all name body := by
  simp [ofConfig, declared?_normalize]

theorem warnings_normalize (all : Aggregate) (name body : Value) :
    warnings all name (Config.viewOutline.normalize body) = warnings all name body := by
  simp [warnings]

end View

namespace DatasetSchema

theorem ofFields_normalize (all : Aggregate) :
    DatasetSchema.ofFields all (Config.normalize config) = .ofFields all config := by
  simp [ofFields, Config.views_normalize, Mapping.mapValues, View.ofConfig_normalize]

theorem warnings_normalize (all : Aggregate) :
    warnings all (Config.normalize config) = warnings all config := by
  simp [warnings, Config.views_normalize, Mapping.mapValues, List.flatMap_map,
    View.warnings_normalize]

end DatasetSchema

theorem Documents.ofConfig_normalize :
    Documents.ofConfig (Config.normalize config) = .ofConfig config := by
  simp only [ofConfig, DatasetSchema.ofConfig, Manifest.ofConfig_normalize,
    InputSchema.ofConfig_normalize, OutputSchema.ofConfig_normalize, Aggregate.ofConfig_normalize,
    DatasetSchema.ofFields_normalize]

theorem Documents.records_normalize (verbose : Bool) :
    Documents.records verbose (Config.normalize config) = Documents.records verbose config := by
  simp only [records, Aggregate.ofConfig_normalize, DatasetSchema.warnings_normalize]

theorem DefaultInput.ofConfig_normalize :
    ofConfig (Config.normalize config) = ofConfig config := by
  simp only [ofConfig, Config.inputFields_normalize, Config.inputDefaults_normalize]

theorem Config.inputGroups_normalize : inputGroups (normalize config) = inputGroups config := by
  rw [inputGroups, inputFields_normalize, inputGroups]

namespace Check

theorem actorIssues_normalize : actorIssues (Config.normalize config) = actorIssues config := by
  rw [actorIssues, Config.actor_normalize, actorIssues]

theorem viewIssues_normalize (fields : Aggregate) (view : Scalar) (body : Value) :
    viewIssues fields view (Config.viewOutline.normalize body) = viewIssues fields view body := by
  rw [viewIssues, Config.viewFields_normalize, viewIssues]

theorem viewReferences_normalize :
    viewReferences (Config.normalize config) = viewReferences config := by
  simp [viewReferences, Config.views_normalize, Mapping.mapValues, List.flatMap_map,
    viewIssues_normalize]

theorem hasKey_mapValues (groups : Mapping Value) (f : Value → Value) (group : Value) :
    hasKey (groups.mapValues f) group = hasKey groups group := by
  cases group with
  | scalar key => simp [hasKey, Mapping.contains_eq_any_keys]
  | _ => rfl

theorem groupReferences_normalize :
    groupReferences (Config.normalize config) = groupReferences config := by
  simp only [groupReferences, Config.fieldGroups_normalize, Config.inputFields_normalize,
    hasKey_mapValues]

theorem issues_normalize : issues (Config.normalize config) = issues config := by
  simp only [issues, Config.isEmpty_normalize, actorIssues_normalize, viewReferences_normalize,
    groupReferences_normalize]

end Check

end

/-- Whatever is malformed in a config, every operation gives what it gives if that is empty. Operations
read sections, and there is one lemma for each section. -/
theorem Operation.run_normalize (op : Operation) (config : Value) :
    op.run (Config.normalize config) = op.run config := by
  cases op with
  | documents verbose =>
      rw [run, Documents.ofConfig_normalize, Documents.records_normalize, run]
  | defaultInput => exact DefaultInput.ofConfig_normalize config
  | datasetFields => exact Aggregate.ofConfig_normalize config
  | inputGroups => exact Config.inputGroups_normalize config
  | references => exact Check.issues_normalize config

example :
    Config.normalize (.ofFields [
      ("actor", .str "shop"),
      ("input", .ofFields [("required", .str "query"), ("fields", .ofFields [("query", .null)])]),
      ("dataset", .ofFields [
        ("views", .ofFields [
          ("main", .int 5), ("other", .ofFields [("fields", .list [.int 5])])])])]) =
    .ofFields [
      ("actor", .mapping []),
      ("input", .ofFields [("required", .list []), ("fields", .ofFields [("query", .mapping [])])]),
      ("dataset", .ofFields [
        ("views", .ofFields [
          ("main", .mapping []), ("other", .ofFields [("fields", .list [.int 5])])])])] := by
  rfl

end ActorSpec
