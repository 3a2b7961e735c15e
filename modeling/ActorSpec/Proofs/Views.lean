import ActorSpec.Proofs.DanglingFields
import Mathlib.Data.List.Induction

/-!
# Views

A view lists fields, and the dataset may have some of them (`View.resolvedFields`). Those become the
properties that the view displays, and each of the others is warned about. Properties are inserted one
after the other, so what is listed twice has one property: its key is that of the first place and its
content that of the last (`Mapping.keys_ofEntries`, `Mapping.get?_ofEntries_eq_getLast?`). One text is one
key in one spelling, so the views that list it agree about it.

Labels, titles and warnings are made from names, and a name may have no text: `View.NamesOverlong` says
for which views.
-/

namespace ActorSpec

/-! ## Inserted entries -/

namespace Mapping

variable {α : Type}

/-- Entries that are inserted keep the first of every key. -/
theorem keys_ofEntries (entries : List (Scalar × α)) :
    (ofEntries entries).keys = (entries.map (·.1)).eraseDupsBy Scalar.same := by
  induction entries using List.reverseRecOn with
  | nil => rfl
  | append_singleton entries e ih =>
      have hstep : ofEntries (entries ++ [e]) = (ofEntries entries).insert e.1 e.2 :=
        List.foldl_append
      have hany : (ofEntries entries).contains e.1 =
          ((entries.map (·.1)).eraseDupsBy Scalar.same).any (Scalar.same e.1) := by
        rw [contains_eq_any_keys, ih]
        exact congrArg (List.any _) (funext fun key => Scalar.same_comm key e.1)
      rw [hstep, keys_insert, ih, hany, List.map_append, List.map_singleton,
        eraseDupsBy_append_singleton]

/-- A key finds what was inserted last for it. -/
theorem get?_ofEntries_eq_getLast? (entries : List (Scalar × α)) (key : Scalar) :
    (ofEntries entries).get? key = ((entries.filter (·.1.same key)).getLast?).map (·.2) := by
  rw [get?_ofEntries, get?_reverse]

end Mapping

namespace View

variable {all : Aggregate} {name body : Value} {key : Scalar} {p : ViewProperty}

/-- The listed fields that the dataset has, in the order of the list. -/
def resolvedFields (all : Aggregate) (body : Value) : List Scalar :=
  ((Config.viewFields body).filterMap fun field => field.asKey.toOption).filter
    all.declarations.contains

theorem mem_resolvedFields {n : Scalar} : n ∈ resolvedFields all body ↔
    .scalar n ∈ Config.viewFields body ∧ all.declarations.contains n = true := by
  have hkey : ∀ field : Value, field.asKey.toOption = some n ↔ field = .scalar n := by
    intro field
    cases field <;> simp [Value.asKey, Except.toOption]
  rw [resolvedFields, List.mem_filter, List.mem_filterMap]
  simp only [hkey, exists_eq_right]

/-- The resolved fields with their properties, one for each place in the list. -/
def displayed (all : Aggregate) (body : Value) : List (Scalar × ViewProperty) :=
  ((Config.viewFields body).filterMap (resolve? all)).map fun (name, d) => (name, property name d)

theorem resolve?_eq_some_iff {field : Value} {n : Scalar} {d : Declaration} :
    resolve? all field = some (n, d) ↔ field = .scalar n ∧ all.declarations.get? n = some d := by
  cases field with
  | scalar other =>
      rw [resolve?, Option.map_eq_some_iff]
      constructor
      · rintro ⟨d', hd, heq⟩
        obtain ⟨rfl, rfl⟩ := Prod.mk.inj heq
        exact ⟨rfl, hd⟩
      · rintro ⟨heq, hd⟩
        obtain rfl := Value.scalar.inj heq
        exact ⟨d, hd, rfl⟩
  | list | tuple | set | mapping => simp [resolve?]

theorem map_fst_displayed (all : Aggregate) (body : Value) :
    (displayed all body).map (·.1) = resolvedFields all body := by
  rw [displayed, resolvedFields, List.map_map, List.map_filterMap, List.filter_filterMap]
  refine List.filterMap_congr fun field _ => ?_
  cases field with
  | scalar n =>
      have hkey : (Value.scalar n).asKey.toOption = some n := rfl
      rw [resolve?, Option.map_map, hkey, Option.filter_some, ← Mapping.isSome_get?]
      cases all.declarations.get? n <;> rfl
  | list | tuple | set | mapping => rfl

theorem mem_displayed (h : (key, p) ∈ displayed all body) :
    ∃ d, all.declaration key = .ok d ∧ p = property key d := by
  obtain ⟨⟨n, d⟩, hmem, heq⟩ := List.mem_map.mp h
  obtain ⟨rfl, rfl⟩ := Prod.mk.inj heq
  obtain ⟨field, -, hfield⟩ := List.mem_filterMap.mp hmem
  have hd := (resolve?_eq_some_iff.mp hfield).2
  exact ⟨d, by rw [Aggregate.declaration, hd], rfl⟩

theorem keys_properties (all : Aggregate) (name body : Value) :
    (ofConfig all name body).properties.keys = (resolvedFields all body).eraseDupsBy Scalar.same := by
  rw [← map_fst_displayed]
  exact Mapping.keys_ofEntries (displayed all body)

/-- What a key finds is made from the last of the resolved fields that it names. -/
theorem get?_properties (h : (ofConfig all name body).properties.get? key = some p) :
    ∃ n d, ((resolvedFields all body).filter (·.same key)).getLast? = some n
      ∧ all.declaration n = .ok d ∧ p = property n d := by
  have hlast : ((displayed all body).filter (·.1.same key)).getLast?.map (·.2) = some p :=
    (Mapping.get?_ofEntries_eq_getLast? (displayed all body) key).symm.trans h
  obtain ⟨⟨n, p'⟩, hentry, rfl⟩ := Option.map_eq_some_iff.mp hlast
  obtain ⟨d, hd, hp⟩ := mem_displayed (List.mem_filter.mp (List.mem_of_getLast? hentry)).1
  refine ⟨n, d, ?_, hd, hp⟩
  have hfilter : (resolvedFields all body).filter (·.same key) =
      ((displayed all body).filter (·.1.same key)).map (·.1) := by
    rw [← map_fst_displayed, List.filter_map]
    rfl
  rw [hfilter, List.getLast?_map, hentry]
  rfl

/-- Every property is found by its own key. -/
theorem get?_of_mem_properties (h : (key, p) ∈ (ofConfig all name body).properties) :
    (ofConfig all name body).properties.get? key = some p :=
  Mapping.get?_of_mem (Mapping.distinct_ofEntries (displayed all body)) h

/-- A text that is listed has the property that its declaration gives it, whatever else is listed. -/
theorem get?_properties_str {text : String} (name : Value)
    (h : .str text ∈ resolvedFields all body) :
    ∃ d, all.declaration (.str text) = .ok d
      ∧ (ofConfig all name body).properties.get? (.str text) = some (property (.str text) d) := by
  obtain ⟨hlisted, hdeclared⟩ := mem_resolvedFields.mp h
  have hcontains := contains_properties name hlisted hdeclared
  rw [← Mapping.isSome_get?] at hcontains
  obtain ⟨p, hp⟩ := Option.isSome_iff_exists.mp hcontains
  obtain ⟨n, d, hlast, hd, rfl⟩ := get?_properties hp
  obtain rfl := Scalar.same_str.mp (List.mem_filter.mp (List.mem_of_getLast? hlast)).2
  exact ⟨d, hd, hp⟩

/-- The properties of the document of a view. -/
theorem get?_section_properties {v : View} {text : String}
    (h : v.properties.get? (.str text) = some p) :
    Mapping.get? (v.toValue.section ["display", "properties"]) (.str text) = some p.toValue := by
  have hfound := Mapping.get?_map_str v.properties (fun _ => ViewProperty.toValue) text
  rw [h] at hfound
  exact hfound

end View

/-! ## What has no text -/

namespace View

variable {all : Aggregate} {name body : Value} {verbose : Bool}

/-- What a view would have to name has no text: a listed field that gets a label or a warning, or the
view itself, if it needs a title or a warning about it is asked for. -/
def NamesOverlong (all : Aggregate) (verbose : Bool) (name body : Value) : Prop :=
  (∃ field ∈ Config.viewFields body, field.isOverlong ∧ (all.contains field ∨ verbose))
  ∨ (name.isOverlong ∧ (body.asMapping.declared? "title" = none
      ∨ (verbose ∧ ∃ field ∈ Config.viewFields body, all.contains field = false)))

theorem fieldRemarks_not_sayable {field : Value} :
    (fieldRemarks all verbose name field).all (·.isSayable) = false ↔
      (field.isOverlong ∧ (all.contains field ∨ verbose))
        ∨ (name.isOverlong ∧ verbose ∧ all.contains field = false) := by
  have hresolved : (resolve? all field).isSome = all.contains field := by
    rw [← Bool.not_inj_iff, ← isNone_resolve?, Option.not_isSome]
  rw [fieldRemarks, hresolved]
  cases all.contains field <;> cases verbose <;> cases hfield : field.isOverlong <;>
    cases hname : name.isOverlong <;> simp [Remark.isSayable, Remark.naming, hfield, hname]

theorem remarks_not_sayable :
    (remarks all verbose name body).all (·.isSayable) = false ↔ NamesOverlong all verbose name body := by
  have htitle : (if (body.asMapping.declared? "title").isSome then [] else [Remark.naming name]).all
      (·.isSayable) = false ↔ name.isOverlong ∧ body.asMapping.declared? "title" = none := by
    cases body.asMapping.declared? "title" <;> simp [Remark.isSayable, Remark.naming]
  rw [remarks, List.all_append, Bool.and_eq_false_iff, htitle, List.all_flatMap, List.all_eq_false,
    NamesOverlong]
  simp only [Bool.not_eq_true, fieldRemarks_not_sayable]
  constructor
  · rintro (⟨field, hfield, hown | ⟨hname, hverbose, hdangling⟩⟩ | ⟨hname, hnone⟩)
    · exact .inl ⟨field, hfield, hown⟩
    · exact .inr ⟨hname, .inr ⟨hverbose, field, hfield, hdangling⟩⟩
    · exact .inr ⟨hname, .inl hnone⟩
  · rintro (⟨field, hfield, hown⟩ | ⟨hname, hnone | ⟨hverbose, field, hfield, hdangling⟩⟩)
    · exact .inl ⟨field, hfield, .inl hown⟩
    · exact .inr ⟨hname, hnone⟩
    · exact .inl ⟨field, hfield, .inr ⟨hname, hverbose, hdangling⟩⟩

theorem runs_make (h : ¬ NamesOverlong all verbose name body) (t : FileTree) :
    Work.Runs (make all verbose name body) t (.ok (ofConfig all name body)) t
      ((records all verbose name body).map .record) := by
  have hall : (remarks all verbose name body).all (·.isSayable) = true :=
    Bool.of_not_eq_false (mt remarks_not_sayable.mp h)
  refine (Work.Runs.ensureSayable hall t).bind ?_
  rw [← List.append_nil (List.map _ _)]
  exact (Work.Runs.logAll _ t).bind (.pure _ t)

theorem runs_make_fault (h : NamesOverlong all verbose name body) (t : FileTree) :
    ∃ new, Work.Runs (make all verbose name body) t (.error .longInteger) t new :=
  ⟨_, (Work.Runs.ensureSayable_fault (remarks_not_sayable.mpr h) t).bind_error _⟩

end View

/-! ## All of a view -/

/-- A view is made unless something is to be named in it that has no text. It keeps its list of fields.
It displays those of them that the dataset has, each once and in the spelling and the place of its first
occurrence, with the label and the format of its last one; about each of the others there is a warning,
if warnings are asked for. Views agree about the names that are texts. Properties are inserted one by
one, so the laws of `Mapping.ofEntries` say which key and which content of a repeated field stay. -/
theorem view_exact (all : Aggregate) (name body : Value) (verbose : Bool) :
    let listed := Config.viewFields body
    let resolved := View.resolvedFields all body
    let document := (View.ofConfig all name body).toValue
    let properties := document.section ["display", "properties"]
    (¬ View.NamesOverlong all verbose name body →
      ∀ t, Work.Runs (View.make all verbose name body) t (.ok (View.ofConfig all name body)) t
        ((View.records all verbose name body).map .record))
    ∧ (View.NamesOverlong all verbose name body →
      ∀ t, ∃ new, Work.Runs (View.make all verbose name body) t (.error .longInteger) t new)
    ∧ (document.section ["transformation"]).field "fields" = .list listed
    ∧ properties.keys = resolved.eraseDupsBy Scalar.same
    ∧ (∀ key v, (key, v) ∈ properties → ∃ n d,
        (resolved.filter (·.same key)).getLast? = some n ∧ all.declaration n = .ok d
        ∧ v = .ofFields [
          ("label", (Declaration.describe d (.scalar n)).label),
          ("format", (Declaration.describe d (.scalar n)).format)])
    ∧ View.records all verbose name body =
        (if verbose then (listed.filter fun field => !all.contains field).map fun field =>
          Channel.datasetSchema.record .warning
            ("Field '" ++ field.display ++ "' in view '" ++ name.display
              ++ "' not found in fields definition")
        else [])
    ∧ ∀ text name' body', .str text ∈ resolved → .str text ∈ View.resolvedFields all body' →
        ∃ v, properties.get? (.str text) = some v
          ∧ Mapping.get? ((View.ofConfig all name' body').toValue.section ["display", "properties"])
            (.str text) = some v := by
  intro listed resolved document properties
  have hproperties : properties =
      (View.ofConfig all name body).properties.mapValues ViewProperty.toValue := rfl
  refine ⟨View.runs_make, View.runs_make_fault, rfl, ?_, ?_, ?_, ?_⟩
  · rw [hproperties, Mapping.keys_mapValues]
    exact View.keys_properties all name body
  · intro key v hmem
    obtain ⟨⟨key', p⟩, hentry, heq⟩ := List.mem_map.mp hmem
    obtain ⟨rfl, rfl⟩ := Prod.mk.inj heq
    obtain ⟨n, d, hlast, hd, rfl⟩ := View.get?_properties (View.get?_of_mem_properties hentry)
    exact ⟨n, d, hlast, hd, rfl⟩
  · rw [View.records, View.warnings]
    simp only [View.isNone_resolve?]
    rfl
  · intro text name' body' hlisted hlisted'
    obtain ⟨d, hd, hproperty⟩ := View.get?_properties_str name hlisted
    obtain ⟨d', hd', hproperty'⟩ := View.get?_properties_str name' hlisted'
    obtain rfl : d = d' := Except.ok.inj (hd.symm.trans hd')
    exact ⟨_, View.get?_section_properties hproperty, View.get?_section_properties hproperty'⟩

/-- Two fields, one of them named by a number. -/
def pricedFields : Aggregate :=
  .ofBase [(.str "price", [(.str "unit", .str "EUR")]), (.int 1, [(.str "format", .str "link")])]

/-- A list with a field in two spellings, one that is not there, and one that cannot be. -/
def mixedView : Value := .ofFields [
  ("fields", .list [.str "price", .bool true, .list [], .str "gone", .int 1, .str "price"])]

def plainView : Value := .ofFields [("fields", .list [.str "price"])]

/-- A view that lists an integer of more digits than are written. -/
def endlessView : Value := .ofFields [("fields", .list [.int (Nat.pow 10 Numeral.maxDigits)])]

theorem namesOverlong_endlessView :
    View.NamesOverlong pricedFields true (.str "main") endlessView :=
  View.remarks_not_sayable.mp (by decide +kernel)

/-- The number keeps its first spelling and has the label of its second one. -/
theorem mixedView_exact :
    let document := (View.ofConfig pricedFields (.str "main") mixedView).toValue
    let properties := document.section ["display", "properties"]
    (∀ t, ∃ new, Work.Runs (View.make pricedFields true (.str "main") mixedView) t
        (.ok (View.ofConfig pricedFields (.str "main") mixedView)) t new)
    ∧ (∀ t, ∃ new, Work.Runs (View.make pricedFields true (.str "main") endlessView) t
        (.error .longInteger) t new)
    ∧ properties.keys = [.str "price", .bool true]
    ∧ (∀ v, (.bool true, v) ∈ properties →
        v = .ofFields [("label", .str "1"), ("format", .str "link")])
    ∧ (View.records pricedFields true (.str "main") mixedView).map (·.message) = [
        "Field '[]' in view 'main' not found in fields definition",
        "Field 'gone' in view 'main' not found in fields definition"]
    ∧ ∃ v, properties.get? (.str "price") = some v
        ∧ Mapping.get? ((View.ofConfig pricedFields .null plainView).toValue.section
          ["display", "properties"]) (.str "price") = some v := by
  obtain ⟨hmade, -, -, hkeys, hcontent, hrecords, hagree⟩ :=
    view_exact pricedFields (.str "main") mixedView true
  have hsaid : ¬ View.NamesOverlong pricedFields true (.str "main") mixedView := by
    rw [← View.remarks_not_sayable]
    decide +kernel
  have hunsaid := (view_exact pricedFields (.str "main") endlessView true).2.1
    namesOverlong_endlessView
  refine ⟨fun t => ⟨_, hmade hsaid t⟩, hunsaid, hkeys, fun v hv => ?_, ?_,
    hagree "price" .null plainView ?_ ?_⟩
  · obtain ⟨n, d, hlast, hd, rfl⟩ := hcontent _ v hv
    obtain rfl : .int 1 = n := Option.some.inj hlast
    obtain rfl : [(.str "format", .str "link")] = d := Except.ok.inj hd
    rfl
  · rw [hrecords]
    rfl
  · exact View.mem_resolvedFields.mpr ⟨List.mem_cons_self .., by decide⟩
  · exact View.mem_resolvedFields.mpr ⟨List.mem_cons_self .., by decide⟩

/-- Not every view is made when warnings are asked for. -/
theorem endlessView_unmade :
    ∃ new, Work.Runs (View.make pricedFields true (.str "main") endlessView) ⟨[], []⟩
      (.error .longInteger) ⟨[], []⟩ new :=
  View.runs_make_fault namesOverlong_endlessView ⟨[], []⟩

end ActorSpec
