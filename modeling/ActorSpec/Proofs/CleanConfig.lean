import ActorSpec.Proofs.Merge
import ActorSpec.Proofs.Shape

/-!
# What the lint leaves of a config

The bundled shapes read as facts about the parts of a config: what a config without issues may have
as the attributes of its actor, its declarations, its views and its output. Null sections, null
declarations and null views are allowed and stand for empty ones, so every fact is about the entries
of a mapping and says nothing when there are none.
-/

namespace ActorSpec

namespace Value

def IsNonemptyText (v : Value) : Prop := ∃ s, v = .str s ∧ s ≠ ""

/-- One of the six names of field types. -/
def IsKind (v : Value) : Prop := ∃ k : Kind, v = .str k.name

def OrNull (P : Value → Prop) (v : Value) : Prop := v = .null ∨ P v

/-- The value of an environment variable. -/
def IsSetting (v : Value) : Prop := v.IsText ∨ v.IsNumber ∨ v.IsFlag

end Value

/-! ## Clean parts -/

structure Config.CleanActor (actor : Mapping Value) : Prop where
  name : actor.MayHave "name" Value.IsNonemptyText
  title : actor.MayHave "title" Value.IsText
  version : actor.MayHave "version" Value.IsText
  buildTag : actor.MayHave "build_tag" Value.IsText
  environmentVariables :
    actor.MayHave "environment_variables" (Value.OrNull (Value.IsTableOf Value.IsSetting))

structure Config.CleanView (body : Mapping Value) : Prop where
  title : body.MayHave "title" Value.IsText
  component : body.MayHave "component" Value.IsText
  fields : body.MayHave "fields" (Value.IsListOf Value.IsText)

structure Config.CleanOutput (output : Mapping Value) : Prop where
  title : output.MayHave "title" Value.IsText
  description : output.MayHave "description" Value.IsText
  properties : output.MayHave "properties" (Value.OrNull (Value.IsTableOf Value.IsAny))

namespace Declaration

/-- The attributes that input fields and dataset fields share. -/
structure Clean (d : Declaration) : Prop where
  title : d.MayHave "title" Value.IsText
  description : d.MayHave "description" Value.IsText
  desc : d.MayHave "desc" Value.IsText
  type : d.MayHave "type" Value.IsKind
  format : d.MayHave "format" Value.IsText

/-- What the constraints of a clean input field are. -/
def constraintKinds : List (String × (Value → Prop)) := [
  ("sectionCaption", Value.IsText),
  ("prefill", Value.IsAny),
  ("default", Value.IsAny),
  ("minLength", Value.IsCount),
  ("maxLength", Value.IsCount),
  ("minimum", Value.IsNumber),
  ("maximum", Value.IsNumber),
  ("enum", Value.IsListOf Value.IsAny)]

structure CleanInput (d : Declaration) : Prop where
  common : d.Clean
  editor : d.MayHave "editor" Value.IsText
  constraints : ∀ f ∈ constraintKinds, d.MayHave f.1 f.2

structure CleanDataset (d : Declaration) : Prop where
  common : d.Clean
  label : d.MayHave "label" Value.IsText
  itemType : d.MayHave "itemType" Value.IsText

end Declaration

/-- What the lint leaves of the whole config; `clean_of_issues` makes one. -/
structure Config.Clean (config : Value) : Prop where
  actor : CleanActor (Config.actor config)
  inputFields : ∀ f ∈ Config.inputFields config, f.2.CleanInput
  required : ∀ v ∈ requiredInputs config, v.IsText
  datasetFields : ∀ w ∈ writers config, ∀ f ∈ w.fields, f.2.CleanDataset
  views : ∀ e ∈ Config.views config, CleanView e.2.asMapping
  output : CleanOutput (Config.output config)

/-! ## Reading the bundled shapes -/

namespace Bundled

theorem accepts_text : Accepts text = Value.IsText := by
  funext v
  simp [text, accepts_cons, accepts_nil, Rule.violations_type, TypeName.admits_string]

theorem accepts_number : Accepts number = Value.IsNumber := by
  funext v
  simp [number, accepts_cons, accepts_nil, Rule.violations_type, TypeName.admits_number]

theorem accepts_array : Accepts [.type [.array]] = Value.IsListOf Value.IsAny := by
  funext v
  simp [accepts_cons, accepts_nil, Rule.violations_type, TypeName.admits_array, Value.IsListOf,
    Value.IsAny]

theorem accepts_setting : Accepts [.type [.string, .number, .boolean]] = Value.IsSetting := by
  funext v
  simp [accepts_cons, accepts_nil, Rule.violations_type, TypeName.admits_string,
    TypeName.admits_number, TypeName.admits_boolean, Value.IsSetting]

theorem accepts_texts : Accepts [.type [.array], .items text] = Value.IsListOf Value.IsText := by
  funext v
  rw [eq_iff_iff, accepts_cons, accepts_cons, accepts_nil, and_true, Rule.violations_type,
    Rule.violations_items, accepts_text]
  simp only [List.mem_singleton, exists_eq_left, TypeName.admits_array]
  constructor
  · rintro ⟨⟨items, rfl⟩, hitems⟩
    exact ⟨items, rfl, hitems items rfl⟩
  · rintro ⟨items, rfl, hitems⟩
    exact ⟨⟨items, rfl⟩, fun parts hparts => Value.list.inj hparts ▸ hitems⟩

theorem texts_of_accepts {v : Value} (h : Accepts [.type [.array, .null], .items text] v) :
    Value.OrNull (Value.IsListOf Value.IsText) v := by
  rw [accepts_cons, accepts_cons, Rule.violations_type, Rule.violations_items, accepts_text] at h
  obtain ⟨⟨n, hn, hadmits⟩, hitems, -⟩ := h
  rcases List.mem_cons.mp hn with rfl | hnull
  · obtain ⟨items, rfl⟩ := TypeName.admits_array.mp hadmits
    exact .inr ⟨items, rfl, hitems items rfl⟩
  · obtain rfl := List.mem_singleton.mp hnull
    exact .inl (TypeName.admits_null.mp hadmits)

/-- Whole and not negative: a natural number, as an integer or as a double. -/
theorem isCount_of_accepts {v : Value} (h : Accepts count v) : v.IsCount := by
  simp only [count, accepts_cons, Rule.violations_type, Rule.violations_notNegative,
    List.mem_singleton, exists_eq_left] at h
  obtain ⟨hinteger, hpositive, -⟩ := h
  rcases TypeName.admits_integer.mp hinteger with ⟨n, rfl⟩ | ⟨x, i, rfl, hi⟩
  · have hn : 0 ≤ n := by simpa [Value.isNegative] using hpositive
    exact ⟨n.toNat, .inl (by rw [Int.toNat_of_nonneg hn])⟩
  · have hn : 0 ≤ i := Binary64.toInt?_of_not_isNegative hi hpositive
    exact ⟨i.toNat, .inr ⟨x, rfl, by rw [hi, Int.toNat_of_nonneg hn]⟩⟩

theorem accepts_sectionOf (rules : List Rule) (v : Value) :
    Accepts (sectionOf rules) v ↔ (v = .null ∨ ∃ m, v = .mapping m) ∧ Accepts rules v := by
  rw [sectionOf, accepts_cons, Rule.violations_type, or_comm (a := v = .null)]
  simp [TypeName.admits_object, TypeName.admits_null]

theorem accepts_properties (fields : List (String × List Rule)) (v : Value) :
    Accepts [.properties fields] v ↔ fieldViolations fields v.asMapping = [] := by
  rw [accepts_cons, accepts_nil, and_true, Rule.violations_properties]

/-- Null breaks no rule of a section, as an empty mapping would not. -/
theorem accepts_properties_null (fields : List (String × List Rule)) :
    Accepts (sectionOf [.properties fields]) .null := by
  rw [accepts_sectionOf, accepts_properties]
  refine ⟨.inl rfl, ?_⟩
  induction fields with
  | nil => rfl
  | cons f rest ih => exact (fieldViolations_cons_eq_nil ..).mpr ⟨fun v hv => (nomatch hv), ih⟩

theorem accepts_table (rules : List Rule) :
    Accepts (sectionOf [.entries rules]) = Value.OrNull (Value.IsTableOf (Accepts rules)) := by
  funext v
  rw [eq_iff_iff, accepts_sectionOf, accepts_cons, accepts_nil, and_true, Rule.violations_entries]
  constructor
  · rintro ⟨rfl | ⟨m, rfl⟩, hentries⟩
    · exact .inl rfl
    · exact .inr ⟨m, rfl, hentries⟩
  · rintro (rfl | ⟨m, rfl, hentries⟩)
    · exact ⟨.inl rfl, fun e he => nomatch he⟩
    · exact ⟨.inr ⟨m, rfl⟩, hentries⟩

theorem accepts_named (name : String) (rules : List Rule) :
    Accepts [.named name rules] = Accepts rules := by
  funext v
  rw [eq_iff_iff, accepts_cons, accepts_nil, and_true, Rule.violations_named]

theorem accepts_anyTable :
    Accepts (sectionOf []) = Value.OrNull (Value.IsTableOf Value.IsAny) := by
  funext v
  rw [eq_iff_iff, accepts_sectionOf, accepts_nil, and_true]
  exact or_congr_right (exists_congr fun m => (and_iff_left fun e he => trivial).symm)

/-! ### Parts -/

theorem isKind_of_accepts {v : Value} (h : Accepts [.type [.string],
      .oneOf ["string", "integer", "number", "boolean", "array", "object"]] v) : v.IsKind := by
  rw [accepts_cons, accepts_cons, Rule.violations_oneOf] at h
  obtain ⟨-, ⟨s, hs, rfl⟩, -⟩ := h
  obtain ⟨k, -, rfl⟩ := List.mem_map.mp (show s ∈ Kind.all.map Kind.name from hs)
  exact ⟨k, rfl⟩

theorem isNonemptyText_of_accepts {v : Value} (h : Accepts [.type [.string], .minLength 1] v) :
    v.IsNonemptyText := by
  simp only [accepts_cons, Rule.violations_type, Rule.violations_minLength, List.mem_singleton,
    exists_eq_left, TypeName.admits_string] at h
  obtain ⟨⟨s, rfl⟩, hsize, -⟩ := h
  have hpos : 0 < s.length := hsize s rfl
  exact ⟨s, rfl, by rintro rfl; exact Nat.not_lt_zero 0 hpos⟩

theorem clean_of_accepts {v : Value} (h : Accepts commonField v) :
    Declaration.Clean v.asMapping := by
  simp only [commonField, accepts_sectionOf, accepts_properties, fieldViolations_cons_eq_nil,
    accepts_text] at h
  obtain ⟨-, htitle, hdescription, hdesc, htype, hformat, -⟩ := h
  exact ⟨htitle, hdescription, hdesc, htype.mono fun v => isKind_of_accepts, hformat⟩

theorem cleanInput_of_accepts {v : Value} (h : Accepts inputField v) :
    Declaration.CleanInput v.asMapping := by
  simp only [inputField, accepts_cons, Rule.violations_allOf, List.forall_mem_singleton,
    Rule.violations_named, Rule.violations_properties, fieldViolations_cons_eq_nil, accepts_text,
    accepts_number, accepts_array] at h
  obtain ⟨⟨hcommon, -⟩, ⟨heditor, hcaption, -, hminLength, hmaxLength, hminimum, hmaximum, henum, -⟩,
    -⟩ := h
  refine ⟨clean_of_accepts hcommon, heditor, ?_⟩
  simp only [Declaration.constraintKinds, List.forall_mem_cons]
  exact ⟨hcaption, fun v hv => trivial, fun v hv => trivial,
    hminLength.mono fun v => isCount_of_accepts, hmaxLength.mono fun v => isCount_of_accepts,
    hminimum, hmaximum, henum, fun f hf => nomatch hf⟩

theorem cleanDataset_of_accepts {v : Value} (h : Accepts datasetField v) :
    Declaration.CleanDataset v.asMapping := by
  simp only [datasetField, accepts_cons, Rule.violations_allOf, List.forall_mem_singleton,
    Rule.violations_named, Rule.violations_properties, fieldViolations_cons_eq_nil, accepts_text] at h
  obtain ⟨⟨hcommon, -⟩, ⟨hlabel, hitemType, -⟩, -⟩ := h
  exact ⟨clean_of_accepts hcommon, hlabel, hitemType⟩

/-! ### Sections -/

theorem cleanView_of_accepts {v : Value} (h : Accepts view v) : Config.CleanView v.asMapping := by
  simp only [view, accepts_sectionOf, accepts_properties, fieldViolations_cons_eq_nil, accepts_text,
    accepts_texts] at h
  obtain ⟨-, htitle, hcomponent, hfields, -⟩ := h
  exact ⟨htitle, hcomponent, hfields⟩

theorem cleanActor_of_accepts {v : Value} (h : Accepts actor v) : Config.CleanActor v.asMapping := by
  rw [actor, accepts_sectionOf, accepts_properties] at h
  simp only [fieldViolations_cons_eq_nil, accepts_text, accepts_table, accepts_setting] at h
  obtain ⟨-, hname, htitle, hversion, hbuildTag, henvironment, -⟩ := h
  exact ⟨hname.mono fun v => isNonemptyText_of_accepts, htitle, hversion, hbuildTag, henvironment⟩

theorem cleanOutput_of_accepts {v : Value} (h : Accepts output v) :
    Config.CleanOutput v.asMapping := by
  rw [output, accepts_sectionOf, accepts_properties] at h
  simp only [fieldViolations_cons_eq_nil, accepts_text, accepts_anyTable] at h
  obtain ⟨-, htitle, hdescription, hproperties, -⟩ := h
  exact ⟨htitle, hdescription, hproperties⟩

end Bundled

/-! ## Configs without issues -/

theorem Value.OrNull.forall_mem {P : Value → Prop} {v : Value} (h : v.OrNull (IsTableOf P)) :
    ∀ e ∈ v.asMapping, P e.2 := by
  rcases h with rfl | ⟨m, rfl, hm⟩
  · exact fun e he => nomatch he
  · exact hm

theorem Value.OrNull.forall_mem_asList {P : Value → Prop} {v : Value} (h : v.OrNull (IsListOf P)) :
    ∀ x ∈ v.asList, P x := by
  rcases h with rfl | hlist
  · exact fun x hx => nomatch hx
  · exact hlist.asList

/-- A bodiless field declares nothing, and its null is what the shape of a field is about. -/
theorem forall_mem_declarationsOf {P : Value → Prop} {Q : Declaration → Prop} {fields : Value}
    (h : fields.OrNull (Value.IsTableOf P)) (hPQ : ∀ v, P v → Q v.asMapping) :
    ∀ f ∈ declarationsOf fields, Q f.2 := by
  intro f hf
  obtain ⟨e, he, rfl⟩ := List.mem_map.mp hf
  exact hPQ e.2 (h.forall_mem e he)

namespace Config

variable {config : Value}

theorem sections_of_issues (h : Lint.issues config = []) :
    Accepts Bundled.actor (config.asMapping.field "actor")
    ∧ Accepts Bundled.input (config.asMapping.field "input")
    ∧ Accepts Bundled.dataset (config.asMapping.field "dataset")
    ∧ Accepts Bundled.output (config.asMapping.field "output") := by
  have hnull := Bundled.accepts_properties_null
  rcases Lint.accepts_of_issues h with rfl | haccepts
  · exact ⟨hnull _, hnull _, hnull _, hnull _⟩
  · simp only [Bundled.config, accepts_cons, Rule.violations_properties,
      fieldViolations_cons_eq_nil] at haccepts
    obtain ⟨-, ⟨hactor, hinput, hdataset, houtput, -⟩, -⟩ := haccepts
    exact ⟨hactor.field (hnull _), hinput.field (hnull _), hdataset.field (hnull _),
      houtput.field (hnull _)⟩

theorem inputFields_of_accepts (h : Accepts Bundled.input (config.asMapping.field "input")) :
    (∀ f ∈ inputFields config, f.2.CleanInput) ∧ ∀ v ∈ requiredInputs config, v.IsText := by
  rw [Bundled.input, Bundled.accepts_sectionOf, Bundled.accepts_properties] at h
  simp only [fieldViolations_cons_eq_nil, Bundled.accepts_table, Bundled.accepts_named] at h
  obtain ⟨-, hfields, hrequired, -⟩ := h
  constructor
  · exact forall_mem_declarationsOf (hfields.field (.inl rfl))
      fun v => Bundled.cleanInput_of_accepts
  · have htexts : Value.OrNull (Value.IsListOf Value.IsText)
        ((config.asMapping.field "input").asMapping.field "required") :=
      (hrequired.mono fun v => Bundled.texts_of_accepts).field (.inl rfl)
    exact htexts.forall_mem_asList

theorem dataset_of_accepts (h : Accepts Bundled.dataset (config.asMapping.field "dataset")) :
    (∀ w ∈ writers config, ∀ f ∈ w.fields, f.2.CleanDataset)
    ∧ ∀ e ∈ views config, CleanView e.2.asMapping := by
  rw [Bundled.dataset, Bundled.accepts_sectionOf, Bundled.accepts_properties] at h
  simp only [fieldViolations_cons_eq_nil, Bundled.accepts_table, Bundled.accepts_named] at h
  obtain ⟨-, hfields, hgroups, hviews, -⟩ := h
  have hclean : ∀ v, Accepts Bundled.datasetField v → Declaration.CleanDataset v.asMapping :=
    fun v => Bundled.cleanDataset_of_accepts
  constructor
  · intro w hw
    rcases List.mem_cons.mp hw with rfl | hgroup
    · exact forall_mem_declarationsOf (hfields.field (.inl rfl)) hclean
    · obtain ⟨g, hg, rfl⟩ := List.mem_map.mp hgroup
      exact forall_mem_declarationsOf ((hgroups.field (.inl rfl)).forall_mem g hg) hclean
  · intro e he
    exact Bundled.cleanView_of_accepts ((hviews.field (.inl rfl)).forall_mem e he)

theorem clean_of_issues (h : Lint.issues config = []) : Clean config := by
  obtain ⟨hactor, hinput, hdataset, houtput⟩ := sections_of_issues h
  obtain ⟨hinputFields, hrequired⟩ := inputFields_of_accepts hinput
  obtain ⟨hdatasetFields, hviews⟩ := dataset_of_accepts hdataset
  exact {
    actor := Bundled.cleanActor_of_accepts hactor
    inputFields := hinputFields
    required := hrequired
    datasetFields := hdatasetFields
    views := hviews
    output := Bundled.cleanOutput_of_accepts houtput }

end Config

end ActorSpec
