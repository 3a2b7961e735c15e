import ActorSpec.Check.References
import ActorSpec.Proofs.Merge
import ActorSpec.Proofs.Run

/-!
# What the cross references report

The checks against a reading of the config that knows neither of the merged fields nor of the loops of
the checks: `Config.IsDatasetField` looks for a name in the base and in every group, and
`Config.listedFields` lists what the views ask for, place by place. The places that ask in vain
(`Config.danglingFields`) and the input fields whose group is none (`Config.strayGroups`) are the
issues, in this order and with nothing between them (`Check.issues_verdict_exact`).

The two loops of the checks are brought to one shape, a filter behind a map (`filterMap_ite_none`), in
which they meet the reading. The same shape tells what the checks name on the way, and so when they end
without a report (`Check.NamesOverlong`).
-/

namespace ActorSpec

/-- An element of the field list of a view, with its place in the list. -/
structure ListedField where
  view : Scalar
  index : Nat
  field : Value

namespace Config

/-! ## Reading the config -/

/-- Not a mapping, or one without entries. -/
def IsBlank (config : Value) : Prop := ∀ entries, config = .mapping entries → entries = []

/-- The actor has a name, and not a null or another empty value in its place. -/
def HasActorName (config : Value) : Prop :=
  ∃ name, (actor config).get? (.str "name") = some name ∧ name.truthy = true

/-- The value names a field of the base or of a group. Lists and mappings name nothing. -/
def IsDatasetField (config : Value) : Value → Prop
  | .scalar name => (∃ f ∈ baseFields config, f.1.same name = true)
      ∨ ∃ g ∈ fieldGroups config, ∃ f ∈ declarationsOf g.2, f.1.same name = true
  | _ => False

/-- The value is a key of the field groups. -/
def IsFieldGroup (config : Value) : Value → Prop
  | .scalar key => ∃ g ∈ fieldGroups config, g.1.same key = true
  | _ => False

/-- All that the views list, view after view. -/
def listedFields (config : Value) : List ListedField :=
  (views config).flatMap fun (view, body) =>
    (viewFields body).zipIdx.map fun (field, index) => ⟨view, index, field⟩

/-! ## The reading decides -/

theorem isBlank_iff {config : Value} : IsBlank config ↔ config.asMapping.isEmpty = true := by
  cases config with
  | mapping entries =>
      rw [List.isEmpty_iff]
      exact ⟨fun h => h entries rfl, fun h entries' he => Value.mapping.inj he ▸ h⟩
  | _ => exact ⟨fun _ => rfl, fun _ entries he => nomatch he⟩

theorem hasActorName_iff {config : Value} :
    HasActorName config ↔ ((actor config).declared? "name").isSome = true := by
  rw [Mapping.declared?, Option.isSome_filter, Option.any_eq_true]
  exact exists_congr fun name => Iff.rfl

theorem isDatasetField_iff {config v : Value} :
    IsDatasetField config v ↔ (Aggregate.ofConfig config).contains v = true := by
  cases v with
  | scalar name =>
      rw [Aggregate.contains, Aggregate.contains_ofConfig, writers, List.any_cons, Bool.or_eq_true,
        List.any_eq_true, groupWriters]
      refine or_congr Mapping.contains_iff.symm ?_
      constructor
      · rintro ⟨g, hg, hf⟩
        exact ⟨.ofGroup g, List.mem_map_of_mem hg, Mapping.contains_iff.mpr hf⟩
      · rintro ⟨w, hw, hf⟩
        obtain ⟨g, hg, rfl⟩ := List.mem_map.mp hw
        exact ⟨g, hg, Mapping.contains_iff.mp hf⟩
  | _ => exact ⟨False.elim, fun h => Bool.noConfusion h⟩

theorem isFieldGroup_iff {config v : Value} :
    IsFieldGroup config v ↔ Check.hasKey (fieldGroups config) v = true := by
  cases v with
  | scalar key => exact Mapping.contains_iff.symm
  | _ => exact ⟨False.elim, fun h => Bool.noConfusion h⟩

instance (config : Value) : Decidable (IsBlank config) := decidable_of_iff _ isBlank_iff.symm

instance (config : Value) : Decidable (HasActorName config) :=
  decidable_of_iff _ hasActorName_iff.symm

instance (config v : Value) : Decidable (IsDatasetField config v) :=
  decidable_of_iff _ isDatasetField_iff.symm

instance (config v : Value) : Decidable (IsFieldGroup config v) :=
  decidable_of_iff _ isFieldGroup_iff.symm

/-! ## What is out of place -/

/-- The listed fields that the dataset does not have. -/
def danglingFields (config : Value) : List ListedField :=
  (listedFields config).filter fun l => ¬ IsDatasetField config l.field

/-- The input fields that refer to a group which is none, with what they refer to. -/
def strayGroups (config : Value) : Mapping Value :=
  (inputGroups config).filter fun e => ¬ IsFieldGroup config e.2

end Config

/-- What is reported of a listed field that the dataset does not have. -/
def ListedField.issue (l : ListedField) : Issue where
  message := "View '" ++ l.view.display ++ "' references unknown field '" ++ l.field.display ++ "'"
  path := SpecPath.join "" ["dataset", "views", l.view.display, "fields", toString l.index]

/-- What is reported of an input field `e.1` that refers to the group `e.2`. -/
def strayGroupIssue (e : Scalar × Value) : Issue where
  message := "Input field '" ++ e.1.display ++ "' references unknown field_group '"
    ++ e.2.display ++ "'"
  path := SpecPath.join "" ["input", "fields", e.1.display, "group"]

namespace Check

/-! ## The checks -/

theorem actorIssues_eq (config : Value) :
    actorIssues config = if Config.HasActorName config then [] else
      [⟨"Missing required field: schemas.actor.name", "/actor/name"⟩] := by
  rw [actorIssues]
  exact if_congr Config.hasActorName_iff.symm rfl rfl

/-- The elements that a test turns down, each with what is made of it. -/
theorem filterMap_ite_none {α β : Type} (p : α → Bool) (f : α → β) (l : List α) :
    (l.filterMap fun a => if p a then none else some (f a)) = (l.filter (!p ·)).map f := by
  induction l with
  | nil => rfl
  | cons a rest ih =>
      rw [List.filterMap_cons, List.filter_cons, ih]
      cases p a <;> rfl

theorem not_isDatasetField_eq (config v : Value) :
    decide (¬ Config.IsDatasetField config v) = !(Aggregate.ofConfig config).contains v := by
  rw [Bool.eq_iff_iff, decide_eq_true_iff, Config.isDatasetField_iff, Bool.not_eq_true,
    Bool.not_eq_true']

theorem viewIssues_eq (config : Value) (view : Scalar) (body : Value) :
    viewIssues (Aggregate.ofConfig config) view body =
      (((Config.viewFields body).zipIdx.map fun (field, index) =>
        (⟨view, index, field⟩ : ListedField)).filter
          fun l => ¬ Config.IsDatasetField config l.field).map ListedField.issue := by
  simp only [not_isDatasetField_eq]
  rw [viewIssues, List.filter_map, List.map_map]
  exact filterMap_ite_none (fun e : Value × Nat => (Aggregate.ofConfig config).contains e.1) _ _

theorem viewReferences_eq (config : Value) :
    viewReferences config = (Config.danglingFields config).map ListedField.issue := by
  rw [Config.danglingFields, Config.listedFields, List.filter_flatMap, List.map_flatMap]
  exact congrArg (List.flatMap · (Config.views config))
    (funext fun e => viewIssues_eq config e.1 e.2)

theorem groupReferences_eq (config : Value) :
    groupReferences config = (Config.strayGroups config).map strayGroupIssue := by
  rw [groupReferences, Config.strayGroups, Config.inputGroups]
  induction Config.inputFields config with
  | nil => rfl
  | cons e rest ih =>
      obtain ⟨name, d⟩ := e
      cases hg : Mapping.declared? d "group" with
      | none => simpa [hg] using ih
      | some group =>
          by_cases hk : hasKey (Config.fieldGroups config) group = true
          · simpa [hg, hk, Config.isFieldGroup_iff] using ih
          · have hissue : unknownGroup name group = strayGroupIssue (name, group) := rfl
            simpa [hg, hk, hissue, Config.isFieldGroup_iff] using ih

/-! ## What has no text -/

/-- What the checks would have to name has no text: a dataset field that is declared again, or the
groups that declare it; a field that a view lists in vain, or the view; an input field with a group that
is none, or the group. -/
def NamesOverlong (config : Value) : Prop :=
  (∃ c ∈ (Aggregate.ofConfig config).collisions,
    c.name.isOverlong ∨ c.previous.isOverlong ∨ c.winning.isOverlong)
  ∨ (∃ l ∈ Config.danglingFields config, l.view.isOverlong ∨ l.field.isOverlong)
  ∨ ∃ e ∈ Config.strayGroups config, e.1.isOverlong ∨ e.2.isOverlong

theorem collision_not_sayable {c : Collision} {record? : Option Record} :
    (⟨c.named, record?⟩ : Remark).isSayable = false ↔
      c.name.isOverlong ∨ c.previous.isOverlong ∨ c.winning.isOverlong := by
  rw [Remark.isSayable, Collision.named]
  simp only [List.all_cons, List.all_nil, Value.isOverlong]
  cases c.name.isOverlong <;> cases c.previous.isOverlong <;> cases c.winning.isOverlong <;> simp

theorem pair_not_sayable {key : Scalar} {v : Value} {record? : Option Record} :
    (⟨[.scalar key, v], record?⟩ : Remark).isSayable = false ↔ key.isOverlong ∨ v.isOverlong := by
  rw [Remark.isSayable]
  simp only [List.all_cons, List.all_nil, Value.isOverlong]
  cases key.isOverlong <;> cases v.isOverlong <;> simp

theorem viewRemarks_eq (config : Value) :
    (Config.views config).flatMap (fun (view, body) =>
      viewRemarks (Aggregate.ofConfig config) view body) =
      (Config.danglingFields config).map fun l => ⟨[.scalar l.view, l.field], none⟩ := by
  rw [Config.danglingFields, Config.listedFields, List.filter_flatMap, List.map_flatMap]
  refine congrArg (List.flatMap · (Config.views config)) (funext fun e => ?_)
  simp only [not_isDatasetField_eq]
  rw [List.filter_map, List.map_map, viewRemarks]
  conv_lhs => rw [← List.zipIdx_map_fst 0 (Config.viewFields e.2), List.filter_map, List.map_map]
  rfl

theorem groupRemarks_eq (config : Value) :
    groupRemarks config = (Config.strayGroups config).map fun e => ⟨[.scalar e.1, e.2], none⟩ := by
  rw [groupRemarks, Config.strayGroups]
  have hgroup : ∀ e : Scalar × Value, decide (¬ Config.IsFieldGroup config e.2) =
      !hasKey (Config.fieldGroups config) e.2 := by
    intro e
    rw [Bool.eq_iff_iff, decide_eq_true_iff, Config.isFieldGroup_iff, Bool.not_eq_true,
      Bool.not_eq_true']
  simp only [hgroup]
  exact filterMap_ite_none (fun e : Scalar × Value => hasKey (Config.fieldGroups config) e.2) _ _

theorem not_namesOverlong_of_isBlank {config : Value} (h : Config.IsBlank config) :
    ¬ NamesOverlong config := by
  have hempty : config.asMapping = [] := List.isEmpty_iff.mp (Config.isBlank_iff.mp h)
  have hsection : ∀ path, config.section path = [] := by
    intro path
    rw [Value.section, hempty]
    induction path with
    | nil => rfl
    | cons key rest ih => exact ih
  have hviews : Config.views config = [] := by
    rw [Config.views, Config.dataset, hsection]
    rfl
  have hgroups : Config.fieldGroups config = [] := by
    rw [Config.fieldGroups, Config.dataset, hsection]
    rfl
  have hbase : Config.baseFields config = [] := by
    rw [Config.baseFields, Config.dataset, hsection]
    rfl
  have hinput : Config.inputGroups config = [] := by
    rw [Config.inputGroups, Config.inputFields, Config.input, hsection]
    rfl
  rw [NamesOverlong, Aggregate.ofConfig, hgroups, hbase, Config.danglingFields, Config.listedFields,
    hviews, Config.strayGroups, hinput]
  rintro (⟨_, h, -⟩ | ⟨_, h, -⟩ | ⟨_, h, -⟩) <;> exact absurd h List.not_mem_nil

theorem remarks_not_sayable (config : Value) :
    (remarks config).all (·.isSayable) = false ↔ NamesOverlong config := by
  have happend : ∀ rs rs' : List Remark, (rs ++ rs').all (·.isSayable) = false ↔
      rs.all (·.isSayable) = false ∨ rs'.all (·.isSayable) = false := fun rs rs' => by
    rw [List.all_append, Bool.and_eq_false_iff]
  have hmap : ∀ {α : Type} (f : α → Remark) (l : List α),
      (l.map f).all (·.isSayable) = false ↔ ∃ a ∈ l, (f a).isSayable = false := fun f l => by
    rw [List.all_map, List.all_eq_false]
    simp
  by_cases hblank : Config.IsBlank config
  · refine iff_of_false ?_ (not_namesOverlong_of_isBlank hblank)
    rw [remarks, if_pos (Config.isBlank_iff.mp hblank)]
    exact nofun
  · rw [remarks, if_neg (mt Config.isBlank_iff.mpr hblank), viewRemarks_eq, groupRemarks_eq,
      Aggregate.remarks, happend, happend, hmap, hmap, hmap, NamesOverlong, or_assoc]
    simp only [collision_not_sayable, pair_not_sayable]

theorem runs_run {config : Value} (h : ¬ NamesOverlong config) (t : FileTree) :
    Work.Runs (run config) t (.ok (issues config)) t ((records config).map .record) := by
  have hall : (remarks config).all (·.isSayable) = true :=
    Bool.of_not_eq_false (mt (remarks_not_sayable config).mp h)
  refine (Work.Runs.ensureSayable hall t).bind ?_
  rw [← List.append_nil (List.map _ _)]
  exact (Work.Runs.logAll (records config) t).bind (.pure (issues config) t)

theorem runs_run_fault {config : Value} (h : NamesOverlong config) (t : FileTree) :
    ∃ new, Work.Runs (run config) t (.error .longInteger) t new :=
  ⟨_, (Work.Runs.ensureSayable_fault ((remarks_not_sayable config).mpr h) t).bind_error _⟩

/-! ## The report -/

/-- The checks give a report on every config but those of which something is to be named that has no
text. The report of a config that is not blank: the actor without a name, then the dangling fields of
the views, view after view and field after field, then the stray groups in the order of the input
fields; each once, and nothing else. A blank config has one issue of its own. The verdict is the
messages. Each loop of the checks comes to a filter behind a map, which is the reading; a check stops at
the first remark that names something without a text (`runs_run_fault`). -/
theorem issues_verdict_exact (config : Value) :
    (¬ NamesOverlong config →
      ∀ t, Work.Runs (run config) t (.ok (issues config)) t ((records config).map .record))
    ∧ (NamesOverlong config → ∀ t, ∃ new, Work.Runs (run config) t (.error .longInteger) t new)
    ∧ issues config =
      (if Config.IsBlank config then [⟨"Config is empty or undefined", ""⟩]
      else (if Config.HasActorName config then [] else
            [⟨"Missing required field: schemas.actor.name", "/actor/name"⟩])
          ++ (Config.danglingFields config).map ListedField.issue
          ++ (Config.strayGroups config).map strayGroupIssue)
    ∧ ((verdict config).valid = true ↔ issues config = [])
    ∧ (verdict config).errors = (issues config).map (·.message) := by
  refine ⟨runs_run, runs_run_fault, ?_, List.isEmpty_iff, rfl⟩
  rw [issues, ← actorIssues_eq, ← viewReferences_eq, ← groupReferences_eq]
  exact if_congr Config.isBlank_iff.symm rfl rfl

/-- A view that lists an integer of more digits than are written. -/
def endlessField : Value := .ofFields [
  ("dataset", .ofFields [("views", .ofFields [
    ("v", .ofFields [("fields", .list [.int (Nat.pow 10 Numeral.maxDigits)])])])])]

theorem namesOverlong_endlessField : NamesOverlong endlessField :=
  (remarks_not_sayable endlessField).mp (by decide +kernel)

/-- A field and a group that are nowhere. -/
def strayReferences : Value := .ofFields [
  ("dataset", .ofFields [("views", .ofFields [("v", .ofFields [("fields", .list [.str "f"])])])]),
  ("input", .ofFields [("fields", .ofFields [("i", .ofFields [("group", .str "g")])])])]

theorem strayReferences_reported :
    (∀ t, ∃ issues, Work.Runs (run strayReferences) t (.ok issues) t []
        ∧ issues.map (·.path) = ["/actor/name", "/dataset/views/v/fields/0", "/input/fields/i/group"])
    ∧ ∀ t, ∃ new, Work.Runs (run endlessField) t (.error .longInteger) t new := by
  constructor
  · intro t
    have hsaid : ¬ NamesOverlong strayReferences := by
      rw [← remarks_not_sayable]
      decide
    exact ⟨_, (issues_verdict_exact strayReferences).1 hsaid t, by decide⟩
  · exact (issues_verdict_exact endlessField).2.1 namesOverlong_endlessField

/-- The checks do not end with a report on every config. -/
theorem endlessField_unsaid :
    ∃ new, Work.Runs (run endlessField) ⟨[], []⟩ (.error .longInteger) ⟨[], []⟩ new :=
  runs_run_fault namesOverlong_endlessField ⟨[], []⟩

end Check

end ActorSpec
