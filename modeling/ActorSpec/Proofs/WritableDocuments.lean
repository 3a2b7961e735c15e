import ActorSpec.Proofs.DocumentShape
import ActorSpec.Proofs.DocumentText
import ActorSpec.Proofs.Rounding
import ActorSpec.Document.DefaultInput

/-!
# Documents that can be written

A document has a text exactly if everything in it has one (`Json.write_eq_ok_iff`). The lint leaves few
places for anything else: almost all that a document takes over from a clean config is a text or a flag,
which the shapes of the documents (`Config.Clean.isManifest` and its like) tell part by part. What is left
are the names of fields, views and environment variables, values that are passed through as they stand,
and numbers, which may have too many digits (`Config.WritableParts`). The default input, which the lint does
not look at, has places of its own (`Config.WritableInput`).

Keys are told apart by what they name, and two keys that name the same entry have a text both or neither
(`Scalar.isWritable_congr`). So it does not matter which spelling of a key a merge has kept.
-/

namespace ActorSpec

/-! ## Keys -/

namespace Binary64

/-- No double is so large that its digits are too many. -/
theorem isOverlong_of_toInt? {x : Binary64} {n : Int} (h : x.toInt? = some n) :
    Numeral.isOverlong n = false := by
  cases x with
  | finite negative code =>
      rw [toInt?] at h
      split at h
      · have hpowers : ∀ m n, m ≤ n → 2 ^ m ≤ Nat.pow 10 n := fun m n hmn =>
          Nat.le_trans (Nat.pow_le_pow_left (by decide) m) (Nat.pow_le_pow_right (by decide) hmn)
        have hlimit := hpowers 1024 Numeral.maxDigits (by decide)
        have hbelow : units code / one < 2 ^ 1024 :=
          (Nat.div_lt_iff_lt_mul one_pos).mpr (units_lt code.isLt)
        have hlarge : units code / one < Nat.pow 10 Numeral.maxDigits := by omega
        rw [← Option.some.inj h, Numeral.isOverlong, decide_eq_false_iff_not, Nat.not_le]
        cases negative with
        | true => rwa [if_pos rfl, Int.natAbs_neg, Int.natAbs_natCast]
        | false => rwa [if_neg Bool.false_ne_true, Int.natAbs_natCast]
      · cases h
  | _ => cases h

end Binary64

/-- What has the identity has a text in documents. -/
def Identity.isWritable : Identity → Bool
  | .whole n => !Numeral.isOverlong n
  | .bytes _ | .day _ | .moment _ | .instant _ => false
  | .null | .fraction _ | .ownNaN .. | .text _ => true

namespace Scalar

theorem isWritable_identity (s : Scalar) : s.identity.isWritable = s.isWritable := by
  cases s with
  | bool b =>
      have hshort : ∀ b : Bool, Numeral.isOverlong b.toNat = false := by decide +kernel
      rw [identity, Identity.isWritable, hshort]
      rfl
  | int n => rw [identity, Identity.isWritable, isWritable]
  | float x =>
      cases hx : x.toInt? with
      | none =>
          rw [identity, hx]
          rfl
      | some n =>
          have hvalue : (some n).map Identity.whole = some (.whole n) := rfl
          rw [identity, hx, hvalue, Option.getD_some, Identity.isWritable,
            Binary64.isOverlong_of_toInt? hx]
          rfl
  | datetime t =>
      rw [identity]
      cases t.instant? <;> rfl
  | _ => rfl

/-- Of two spellings of one key both have a text, or neither has. -/
theorem isWritable_congr {a b : Scalar} (h : a.same b = true) : a.isWritable = b.isWritable := by
  rw [← isWritable_identity a, ← isWritable_identity b, same_iff.mp h]

end Scalar

namespace Mapping

variable {α : Type}

/-- Every key has a text. -/
def WritableKeys (m : Mapping α) : Prop := ∀ e ∈ m, e.1.isWritable = true

/-- Every key finds itself, so writable keys are a matter of what is contained. -/
theorem writableKeys_iff (m : Mapping α) :
    m.WritableKeys ↔ ∀ name : Scalar, name.isWritable = false → m.contains name = false := by
  constructor
  · intro h name hname
    refine List.any_eq_false.mpr fun e he hsame => ?_
    cases ((h e he).symm.trans (Scalar.isWritable_congr hsame)).trans hname
  · intro h e he
    by_contra hname
    have hcontains := contains_iff.mpr ⟨e, he, Scalar.same_refl e.1⟩
    cases hcontains.symm.trans (h e.1 (Bool.not_eq_true _ ▸ hname))

theorem WritableKeys.ofEntries {entries : List (Scalar × α)} (h : WritableKeys entries) :
    (ofEntries entries).WritableKeys := by
  rw [writableKeys_iff] at h ⊢
  simpa only [contains_ofEntries] using h

end Mapping

namespace Value

theorem isWritable_list_iff (items : List Value) :
    (Value.list items).isWritable = true ↔ ∀ v ∈ items, v.isWritable = true := by
  have hitems : everyItem partIsWritable items = true ↔ ∀ v ∈ items, v.isWritable = true := by
    induction items with
    | nil => simp [everyItem]
    | cons v rest ih =>
        rw [everyItem, Bool.and_eq_true, ih, List.forall_mem_cons]
        rfl
  rw [← hitems, isWritable, everyPart, Bool.and_eq_true]
  exact and_iff_right rfl

theorem isWritable_mapping_iff (m : Mapping Value) : (Value.mapping m).isWritable = true ↔
    m.WritableKeys ∧ ∀ e ∈ m, e.2.isWritable = true := by
  have hentries : everyEntry partIsWritable m = true ↔ ∀ e ∈ m, e.2.isWritable = true := by
    induction m with
    | nil => simp [everyEntry]
    | cons e rest ih =>
        rw [everyEntry, Bool.and_eq_true, ih, List.forall_mem_cons]
        rfl
  rw [← hentries, isWritable, everyPart, Bool.and_eq_true, partIsWritable, List.all_eq_true,
    Mapping.WritableKeys]

/-- Texts are written as keys. -/
theorem isWritable_ofFields_iff (fields : List (String × Value)) :
    (ofFields fields).isWritable = true ↔ ∀ f ∈ fields, f.2.isWritable = true := by
  rw [ofFields, isWritable_mapping_iff, Mapping.WritableKeys, List.forall_mem_map,
    List.forall_mem_map]
  exact and_iff_right fun f _ => rfl

theorem isWritable_str (s : String) : (Value.str s).isWritable = true := rfl

theorem isWritable_one : (Value.int 1).isWritable = true := by decide +kernel

theorem IsText.isWritable {v : Value} (h : v.IsText) : v.isWritable = true := by
  obtain ⟨s, rfl⟩ := h
  rfl

theorem IsNonemptyText.isText {v : Value} (h : v.IsNonemptyText) : v.IsText := by
  obtain ⟨s, hs, -⟩ := h
  exact ⟨s, hs⟩

theorem IsKind.isWritable {v : Value} (h : v.IsKind) : v.isWritable = true := by
  obtain ⟨k, rfl⟩ := h
  rfl

theorem IsListOf.isWritable {v : Value} (h : v.IsListOf IsText) : v.isWritable = true := by
  obtain ⟨items, rfl, hitems⟩ := h
  exact (isWritable_list_iff items).mpr fun v hv => (hitems v hv).isWritable

/-- The fields of a record are texts, so nothing but its values counts. -/
theorem IsRecord.isWritable {required optional : List (String × (Value → Prop))} {v : Value}
    (h : v.IsRecord required optional)
    (hfields : ∀ f ∈ required ++ optional, ∀ x, f.2 x → x.isWritable = true) : v.isWritable = true := by
  obtain ⟨m, rfl, -, hentries⟩ := h
  refine (isWritable_mapping_iff m).mpr ⟨fun e he => ?_, fun e he => ?_⟩
  · obtain ⟨f, -, hkey, -⟩ := hentries e he
    rw [hkey]
    rfl
  · obtain ⟨f, hf, -, hvalue⟩ := hentries e he
    exact hfields f hf e.2 hvalue

/-- Whatever its kind, a field schema is made of texts. -/
theorem IsFieldSchema.isWritable {v : Value} (h : v.IsFieldSchema) : v.isWritable = true := by
  obtain ⟨k, hrecord⟩ := h
  have htext : ∀ x, IsText x → x.isWritable = true := fun _ => IsText.isWritable
  have htype : ∀ x, IsTypeOf k x → x.isWritable = true := by
    rintro x (rfl | rfl)
    · exact isWritable_str _
    · exact IsListOf.isWritable ⟨_, rfl, by simp [isText_str]⟩
  have hitems : ∀ x, IsRecord [("type", IsText)] [] x → x.isWritable = true := fun x hx =>
    hx.isWritable (List.forall_mem_cons.mpr ⟨htext, fun f hf => nomatch hf⟩)
  refine hrecord.isWritable ?_
  split
  · simp only [List.cons_append, List.nil_append, List.append_nil, List.forall_mem_cons]
    exact ⟨htype, htext, htext, hitems, List.forall_mem_nil _⟩
  · simp only [List.append_nil, List.forall_mem_cons]
    exact ⟨htype, htext, htext, List.forall_mem_nil _⟩

end Value

/-- A table that is missing or null counts as empty. -/
theorem Mapping.MayHave.getD_declared {m : Mapping Value} {key : String} {P : Value → Prop}
    (h : m.MayHave key (Value.OrNull (Value.IsTableOf P))) :
    (m.declared? key).getD (.mapping []) = .mapping (m.field key).asMapping := by
  rw [declared?, Mapping.field]
  cases hv : m.get? (.str key) with
  | none => rfl
  | some v =>
      rcases h v hv with rfl | ⟨entries, rfl, -⟩
      · rfl
      · cases entries <;> rfl

/-! ## The parts that the lint leaves open -/

/-- Everything has a text in the parts of a config that the documents take over and that the lint leaves
open. -/
structure Config.WritableParts (config : Value) : Prop where
  environment :
    (Value.mapping ((Config.actor config).field "environment_variables").asMapping).isWritable = true
  inputNames : (Config.inputFields config).WritableKeys
  inputValues : ∀ f ∈ Config.inputFields config, ∀ c ∈ f.2.constraints, c.2.isWritable = true
  datasetNames : ∀ w ∈ Config.writers config, w.fields.WritableKeys
  viewNames : (Config.views config).WritableKeys
  outputProperties : ((Config.output config).field "properties").isWritable = true

namespace Config.Clean

open Value

variable {config : Value}

theorem isWritable_manifest_iff (h : Clean config) :
    (Manifest.ofConfig config).toValue.isWritable = true ↔
      (Value.mapping ((Config.actor config).field "environment_variables").asMapping).isWritable =
        true := by
  have hname : (Manifest.ofConfig config).name.isWritable = true :=
    (h.actor.name.mono fun _ hv => hv.isText).getD (isText_str _) |>.isWritable
  have hversion : (Manifest.ofConfig config).version.isWritable = true :=
    (h.actor.version.getD (isText_str _)).isWritable
  have hbuildTag : (Manifest.ofConfig config).buildTag.isWritable = true :=
    (h.actor.buildTag.getD (isText_str _)).isWritable
  have henvironment : (Manifest.ofConfig config).environmentVariables =
      .mapping ((Config.actor config).field "environment_variables").asMapping :=
    h.actor.environmentVariables.getD_declared
  rw [Manifest.toValue, isWritable_ofFields_iff, henvironment]
  simp only [List.forall_mem_cons]
  constructor
  · intro hall
    exact hall.2.2.2.2.1
  · intro hvariables
    exact ⟨isWritable_one, hname, hversion, hbuildTag, hvariables, rfl, rfl, rfl, List.forall_mem_nil _⟩

theorem isWritable_inputProperty_iff {d : Declaration} (h : d.CleanInput) (name : Value) :
    (InputProperty.ofField name d).toValue.isWritable = true ↔
      ∀ c ∈ d.constraints, c.2.isWritable = true := by
  have htitle : (InputProperty.ofField name d).title.isWritable = true :=
    (h.common.isText_title name).isWritable
  have htype : (InputProperty.ofField name d).type.isWritable = true :=
    h.common.isKind_inputType.isWritable
  have hdescription : (InputProperty.ofField name d).description.isWritable = true :=
    h.common.isText_description.isWritable
  have heditor : (InputProperty.ofField name d).editor.isWritable = true := h.isText_editor.isWritable
  rw [InputProperty.toValue, isWritable_ofFields_iff, List.forall_mem_append]
  simp only [List.forall_mem_cons]
  exact and_iff_right ⟨htitle, htype, hdescription, heditor, List.forall_mem_nil _⟩

theorem isWritable_inputSchema_iff (h : Clean config) :
    (InputSchema.ofConfig config).toValue.isWritable = true ↔ (Config.inputFields config).WritableKeys
      ∧ ∀ f ∈ Config.inputFields config, ∀ c ∈ f.2.constraints, c.2.isWritable = true := by
  have htitle : (InputSchema.ofConfig config).title.isWritable = true := h.isText_inputTitle.isWritable
  have hrequired : (Value.list (InputSchema.ofConfig config).required).isWritable = true :=
    IsListOf.isWritable ⟨_, rfl, h.required⟩
  have hproperties : (Value.mapping
      ((InputSchema.ofConfig config).properties.mapValues InputProperty.toValue)).isWritable = true ↔
        (Config.inputFields config).WritableKeys ∧ ∀ f ∈ Config.inputFields config,
          ∀ c ∈ f.2.constraints, c.2.isWritable = true := by
    rw [isWritable_mapping_iff, Mapping.WritableKeys, InputSchema.ofConfig, Mapping.mapValues,
      List.map_map, List.forall_mem_map, List.forall_mem_map]
    exact and_congr_right fun _ => forall₂_congr fun f hf =>
      isWritable_inputProperty_iff (h.inputFields f hf) (.scalar f.1)
  rw [InputSchema.toValue, isWritable_ofFields_iff, ← hproperties]
  simp only [List.forall_mem_cons]
  constructor
  · intro hall
    exact hall.2.2.2.1
  · intro hall
    exact ⟨htitle, rfl, isWritable_one, hall, hrequired, List.forall_mem_nil _⟩

theorem isWritable_view (h : Clean config) {body : Value} (hbody : CleanView body.asMapping)
    (name : Value) : (View.ofConfig (.ofConfig config) name body).toValue.isWritable = true := by
  have htext : ∀ x, IsText x → x.isWritable = true := fun _ => IsText.isWritable
  have hkeys : (View.ofConfig (.ofConfig config) name body).properties.WritableKeys := by
    refine Mapping.WritableKeys.ofEntries fun e he => ?_
    obtain ⟨⟨key, d⟩, hresolved, rfl⟩ := List.mem_map.mp he
    obtain ⟨field, hlisted, hfield⟩ := List.mem_filterMap.mp hresolved
    obtain ⟨s, rfl⟩ := isText_viewFields hbody field hlisted
    obtain ⟨d', -, heq⟩ := Option.map_eq_some_iff.mp hfield
    obtain ⟨rfl, rfl⟩ := Prod.mk.inj heq
    rfl
  have hproperties : (Value.mapping ((View.ofConfig (.ofConfig config) name body).properties.mapValues
      ViewProperty.toValue)).isWritable = true := by
    rw [isWritable_mapping_iff, Mapping.WritableKeys, Mapping.mapValues, List.forall_mem_map,
      List.forall_mem_map]
    refine ⟨hkeys, fun e he => (h.isRecord_viewProperty name body e he).isWritable ?_⟩
    simp only [List.append_nil, List.forall_mem_cons]
    exact ⟨htext, htext, List.forall_mem_nil _⟩
  have htitle : (View.ofConfig (.ofConfig config) name body).title.isWritable = true :=
    (hbody.title.getD (isText_str _)).isWritable
  have hcomponent : (View.ofConfig (.ofConfig config) name body).component.isWritable = true :=
    (hbody.component.getD (isText_str _)).isWritable
  have hfields : (Value.list (View.ofConfig (.ofConfig config) name body).fields).isWritable = true :=
    IsListOf.isWritable ⟨_, rfl, isText_viewFields hbody⟩
  rw [View.toValue, isWritable_ofFields_iff]
  simp only [List.forall_mem_cons, isWritable_ofFields_iff]
  exact ⟨htitle, ⟨hfields, List.forall_mem_nil _⟩,
    ⟨hcomponent, hproperties, List.forall_mem_nil _⟩, List.forall_mem_nil _⟩

/-- The names of the dataset are those that its writers declare. -/
theorem writableKeys_declarations_iff (config : Value) :
    (Aggregate.ofConfig config).declarations.WritableKeys ↔
      ∀ w ∈ Config.writers config, w.fields.WritableKeys := by
  simp only [Mapping.writableKeys_iff, Aggregate.contains_ofConfig, List.any_eq_false,
    Bool.not_eq_true]
  exact ⟨fun h w hw name hname => h name hname w hw, fun h name hname w hw => h w hw name hname⟩

theorem isWritable_datasetSchema_iff (h : Clean config) :
    (DatasetSchema.ofConfig config).toValue.isWritable = true ↔
      (∀ w ∈ Config.writers config, w.fields.WritableKeys) ∧ (Config.views config).WritableKeys := by
  have hfields : (Value.mapping
      ((DatasetSchema.ofConfig config).fields.mapValues FieldSchema.toValue)).isWritable = true ↔
        ∀ w ∈ Config.writers config, w.fields.WritableKeys := by
    rw [← writableKeys_declarations_iff, isWritable_mapping_iff, Mapping.WritableKeys,
      DatasetSchema.ofConfig, DatasetSchema.ofFields, Mapping.mapValues, List.map_map,
      List.forall_mem_map, List.forall_mem_map]
    exact and_iff_left fun f hf => (isFieldSchema (h.declarations f hf) (.scalar f.1)).isWritable
  have hviews : (Value.mapping
      ((DatasetSchema.ofConfig config).views.mapValues View.toValue)).isWritable = true ↔
        (Config.views config).WritableKeys := by
    rw [isWritable_mapping_iff, Mapping.WritableKeys, DatasetSchema.ofConfig, DatasetSchema.ofFields,
      Mapping.mapValues, List.map_map, List.forall_mem_map, List.forall_mem_map]
    exact and_iff_left fun e he => h.isWritable_view (h.views e he) (.scalar e.1)
  rw [DatasetSchema.toValue, isWritable_ofFields_iff, ← hfields, ← hviews]
  simp only [List.forall_mem_cons, isWritable_ofFields_iff]
  constructor
  · intro hall
    exact ⟨hall.2.1.2.2.1, hall.2.2.1⟩
  · rintro ⟨hfields, hviews⟩
    exact ⟨isWritable_one, ⟨rfl, rfl, hfields, List.forall_mem_nil _⟩, hviews, List.forall_mem_nil _⟩

theorem isWritable_outputSchema_iff (h : Clean config) :
    (OutputSchema.ofConfig config).toValue.isWritable = true ↔
      ((Config.output config).field "properties").isWritable = true := by
  have hproperties : (OutputSchema.ofConfig config).properties.isWritable = true ↔
      ((Config.output config).field "properties").isWritable = true := by
    rw [OutputSchema.ofConfig]
    rcases h.output.properties.field (.inl rfl) with hnull | ⟨m, htable, -⟩
    · rw [hnull]
      exact iff_of_true rfl rfl
    · rw [htable]
      rfl
  have htitle : (OutputSchema.ofConfig config).title.isWritable = true :=
    (h.output.title.getD (isText_str _)).isWritable
  have hdescription : (OutputSchema.ofConfig config).description.isWritable = true :=
    (h.output.description.getD (isText_str _)).isWritable
  rw [OutputSchema.toValue, isWritable_ofFields_iff, ← hproperties]
  simp only [List.forall_mem_cons]
  constructor
  · intro hall
    exact hall.2.2.2.1
  · intro hall
    exact ⟨isWritable_one, htitle, hdescription, hall, List.forall_mem_nil _⟩

/-- The documents of a clean config have texts exactly if the parts are that the lint leaves
open. -/
theorem forall_files_isWritable_iff (h : Clean config) :
    (∀ e ∈ (Documents.ofConfig config).files, e.2.isWritable = true) ↔ WritableParts config := by
  simp only [Documents.files, Documents.ofConfig, List.forall_mem_cons, h.isWritable_manifest_iff,
    h.isWritable_inputSchema_iff, h.isWritable_datasetSchema_iff, h.isWritable_outputSchema_iff]
  constructor
  · rintro ⟨henvironment, ⟨hinputNames, hinputValues⟩, ⟨hdatasetNames, hviewNames⟩, houtput, -⟩
    exact ⟨henvironment, hinputNames, hinputValues, hdatasetNames, hviewNames, houtput⟩
  · intro hparts
    exact ⟨hparts.environment, ⟨hparts.inputNames, hparts.inputValues⟩,
      ⟨hparts.datasetNames, hparts.viewNames⟩, hparts.outputProperties, List.forall_mem_nil _⟩

end Config.Clean

/-! ## The default input -/

/-- Everything has a text in the defaults of the whole input and in what a field starts from that they
leave. -/
structure Config.WritableInput (config : Value) : Prop where
  overrides : (Value.mapping (Config.inputDefaults config)).isWritable = true
  started : ∀ f ∈ Config.inputFields config, (Config.inputDefaults config).contains f.1 = false →
    ∀ v, DefaultInput.derived? f.2 = some v → f.1.isWritable = true ∧ v.isWritable = true

theorem DefaultInput.isWritable_iff {config : Value} (h : config.WellFormed) :
    (Value.mapping (ofConfig config)).isWritable = true ↔ Config.WritableInput config := by
  have hfields : (Config.inputFields config).Distinct :=
    ((h.field "input").field "fields").asMapping_distinct.mapValues _
  have hoverrides : (Config.inputDefaults config).Distinct :=
    ((h.field "input").field "defaults").asMapping_distinct
  have hspelling : ∀ (a b : Scalar) (v : Value), a.same b = true →
      (a.isWritable = true ∧ v.isWritable = true ↔ b.isWritable = true ∧ v.isWritable = true) := by
    intro a b v hsame
    rw [Scalar.isWritable_congr hsame]
  have hentries := Mapping.forall_mem_update_iff hspelling (hfields.filterMap derived?) hoverrides
  rw [Value.isWritable_mapping_iff, Mapping.WritableKeys, ← forall₂_and]
  refine hentries.trans ⟨fun hall => ⟨?_, ?_⟩, fun hinput => ⟨?_, ?_⟩⟩
  · exact (Value.isWritable_mapping_iff _).mpr (forall₂_and.mp hall.1)
  · intro f hf hleft v hv
    exact hall.2 (f.1, v) (List.mem_filterMap.mpr ⟨f, hf, by rw [hv]; rfl⟩) hleft
  · exact forall₂_and.mpr ((Value.isWritable_mapping_iff _).mp hinput.overrides)
  · intro e he hleft
    obtain ⟨f, hf, hderived⟩ := List.mem_filterMap.mp he
    obtain ⟨v, hv, rfl⟩ := Option.map_eq_some_iff.mp hderived
    exact hinput.started f hf hleft v hv

end ActorSpec
