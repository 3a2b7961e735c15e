import ActorSpec.Proofs.LintReport
import ActorSpec.Proofs.Operations

/-!
# The lint covers what the operations tolerate

Every part that an operation takes for a mapping or a list is null, or stands at a site where the
lint asks for a mapping or a list (`Operation.reads_covered`). So an operation on a config that the
lint accepts can as well be strict, and a part that is taken as empty although it is not null has an
issue (`Operation.lint_covers_reads`).
-/

namespace ActorSpec

/-! ## Parts below parts -/

namespace Site

theorem parts_append (outer inner : Site) (v : Value) :
    (outer ++ inner).parts v = (outer.parts v).flatMap fun p =>
      (inner.parts p.value).map fun q => ⟨p.path ++ q.path, q.value⟩ := by
  induction outer generalizing v with
  | nil => simp [parts]
  | cons stop rest ih =>
      cases stop with
      | key name =>
          simp only [List.cons_append, parts]
          split
          · simp [ih, List.map_flatMap, List.flatMap_map, Part.below, Function.comp_def]
          · rfl
      | entry =>
          simp [parts, ih, List.map_flatMap, List.flatMap_map, List.flatMap_assoc, Part.below,
            Function.comp_def]
      | item =>
          cases v with
          | list items =>
              simp [parts, ih, List.map_flatMap, List.flatMap_map, List.flatMap_assoc, Part.below,
                Function.comp_def]
          | _ => rfl

end Site

/-- The part is null, or stands at the site. -/
def Part.At (config : Value) (site : Site) (p : Part) : Prop :=
  p.value = .null ∨ p ∈ site.parts config

/-- The table is read from a part at the site. -/
def Table.At (config : Value) (site : Site) (t : Table) : Prop :=
  ∃ p : Part, p.At config site ∧ t = p.table

theorem Table.At.field {config : Value} {site : Site} {t : Table} (h : t.At config site)
    (key : String) : (t.field key).At config (site ++ [.key key]) := by
  obtain ⟨p, hp, rfl⟩ := h
  cases hget : p.value.asMapping.get? (.str key) with
  | none =>
      left
      rw [Table.value_field, Part.entries_table, Mapping.field, hget]
      rfl
  | some v =>
      right
      have hsite : p ∈ site.parts config := by
        refine hp.resolve_left fun hnull => ?_
        rw [hnull] at hget
        cases hget
      rw [Site.parts_append, List.mem_flatMap]
      refine ⟨p, hsite, ?_⟩
      simp [Site.parts, hget, Table.field, Part.table, Mapping.field, Part.below]

theorem Table.At.entry {config : Value} {site : Site} {t : Table} (h : t.At config site)
    {e : Scalar × Part} (he : e ∈ t.parts) : e.2.At config (site ++ [.entry]) := by
  obtain ⟨p, hp, rfl⟩ := h
  obtain ⟨e, hmem, rfl⟩ := List.mem_map.mp he
  have hsite : p ∈ site.parts config := by
    refine hp.resolve_left fun hnull => ?_
    rw [Part.entries_table, hnull] at hmem
    cases hmem
  right
  rw [Site.parts_append, List.mem_flatMap]
  refine ⟨p, hsite, ?_⟩
  simp only [Site.parts, List.map_flatMap, List.mem_flatMap]
  exact ⟨e, hmem, by simp [Part.below, Part.table]⟩

/-! ## Covered inspections -/

/-- Whatever satisfies the demands at the site can be taken for the kind. -/
def Site.Asks (site : Site) (kind : ReadAs) : Prop :=
  ∃ names, ⟨site, .type names⟩ ∈ Config.demands ∧ ∀ n ∈ names, n = .null ∨ n = kind.typeName

def Read.Covered (config : Value) (x : Read) : Prop :=
  ∃ site : Site, site.Asks x.kind ∧ x.part.At config site

/-- All reads are covered, and the result of the tolerant run has a property. -/
structure Inspection.Covered (config : Value) (r : Inspection α) (post : α → Prop) : Prop where
  reads : ∀ x ∈ r.reads, x.Covered config
  result : post r.tolerant

/-- All reads are covered. -/
abbrev Inspection.AllCovered (config : Value) (r : Inspection α) : Prop :=
  r.Covered config fun _ => True

namespace Inspection

variable {α β : Type} {config : Value}

theorem Covered.pure {post : α → Prop} {a : α} (h : post a) :
    (Pure.pure a : Inspection α).Covered config post :=
  ⟨by simp, h⟩

theorem Covered.bind {r : Inspection α} {f : α → Inspection β} {mid : α → Prop} {post : β → Prop}
    (h : r.Covered config mid) (hf : ∀ a, mid a → (f a).Covered config post) :
    (r >>= f).Covered config post := by
  have hf := hf _ h.result
  constructor
  · rw [reads_bind]
    intro x hx
    exact (List.mem_append.mp hx).elim (h.reads x) (hf.reads x)
  · rw [tolerant_bind]
    exact hf.result

theorem Covered.table {site : Site} {p : Part} (hasks : site.Asks .mapping)
    (h : p.At config site) : (Inspection.table p).Covered config (·.At config site) := by
  constructor
  · rw [reads_table]
    intro x hx
    obtain rfl := List.mem_singleton.mp hx
    exact ⟨site, hasks, h⟩
  · exact ⟨p, h, rfl⟩

theorem Covered.list {site : Site} {p : Part} (hasks : site.Asks .list)
    (h : p.At config site) : (Inspection.list p).AllCovered config := by
  constructor
  · rw [reads_list]
    intro x hx
    obtain rfl := List.mem_singleton.mp hx
    exact ⟨site, hasks, h⟩
  · trivial

theorem Covered.eachEntry {site : Site} {t : Table} {f : Scalar → Part → Inspection α}
    (h : t.At config site)
    (hf : ∀ name p, p.At config (site ++ [.entry]) → (f name p).AllCovered config) :
    (Inspection.eachEntry f t).AllCovered config := by
  constructor
  · rw [reads_eachEntry]
    intro x hx
    obtain ⟨e, he, hx⟩ := List.mem_flatMap.mp hx
    exact (hf e.1 e.2 (h.entry he)).reads x hx
  · trivial

end Inspection

/-! ## The sites of the reads -/

theorem Config.asks_root : Site.Asks [] .mapping := ⟨[.object], by decide, by decide⟩

theorem Config.asks_section {site : Site} (h : site ∈ Config.sections) : site.Asks .mapping := by
  have hdemands : ∀ site ∈ Config.sections,
      ⟨site, .type [.object, .null]⟩ ∈ Config.demands := by decide
  exact ⟨[.object, .null], hdemands site h, by decide⟩

theorem Config.asks_required : Site.Asks [.key "input", .key "required"] .list :=
  ⟨[.array, .null], by decide, by decide⟩

theorem Config.asks_viewFields : Site.Asks (Config.view ++ [.key "fields"]) .list :=
  ⟨[.array], by decide, by decide⟩

namespace Inspection

variable (config : Value)

theorem covered_root : (table ⟨[], config⟩).Covered config (·.At config []) :=
  .table Config.asks_root (.inr (List.mem_singleton.mpr rfl))

theorem covered_sectionOf (key : String) (h : [.key key] ∈ Config.sections) :
    (sectionOf config [key]).Covered config (·.At config [.key key]) := by
  refine (covered_root config).bind fun _ hroot => ?_
  exact (Covered.table (Config.asks_section h) (hroot.field key)).bind fun _ ht => .pure ht

theorem covered_datasetPart (key : String) (h : [.key "dataset", .key key] ∈ Config.sections) :
    (sectionOf config ["dataset", key]).Covered config
      (·.At config [.key "dataset", .key key]) := by
  refine (covered_root config).bind fun _ hroot => ?_
  have hdataset : [.key "dataset"] ∈ Config.sections := by decide
  refine (Covered.table (Config.asks_section hdataset) (hroot.field "dataset")).bind fun _ ht => ?_
  exact (Covered.table (Config.asks_section h) (ht.field key)).bind fun _ ht => .pure ht

theorem covered_declarations {config : Value} {site : Site} {fields : Part}
    (h : fields.At config site) (htable : site ∈ Config.sections)
    (hfield : site ++ [.entry] ∈ Config.sections) : (declarations fields).AllCovered config := by
  refine (Covered.table (Config.asks_section htable) h).bind fun _ ht => ?_
  refine .eachEntry ht fun _ _ hbody => ?_
  exact (Covered.table (Config.asks_section hfield) hbody).bind fun _ _ => .pure trivial

theorem covered_viewFields {config : Value} {body : Part} (h : body.At config Config.view) :
    (viewFields body).AllCovered config := by
  refine (Covered.table (Config.asks_section (by decide)) h).bind fun _ ht => ?_
  exact .list Config.asks_viewFields (ht.field "fields")

/-! ## The reads of the operations -/

theorem covered_inputFields : (inputFields config).AllCovered config := by
  refine (covered_sectionOf config "input" (by decide)).bind fun _ hinput => ?_
  exact covered_declarations (hinput.field "fields") (by decide) (by decide)

theorem covered_aggregate : (aggregate config).AllCovered config := by
  refine (covered_sectionOf config "dataset" (by decide)).bind fun _ hdataset => ?_
  refine (covered_declarations (hdataset.field "fields") (by decide) (by decide)).bind
    fun _ _ => ?_
  have hgroups := hdataset.field "field_groups"
  refine (Covered.table (Config.asks_section (by decide)) hgroups).bind fun _ ht => ?_
  refine (Covered.eachEntry ht fun _ _ hgroup => ?_).bind fun _ _ => .pure trivial
  exact covered_declarations hgroup (by decide) (by decide)

theorem covered_manifest : (manifest config).AllCovered config :=
  (covered_sectionOf config "actor" (by decide)).bind fun _ _ => .pure trivial

theorem covered_inputTitle : (inputTitle config).AllCovered config :=
  (covered_sectionOf config "actor" (by decide)).bind fun _ _ => .pure trivial

theorem covered_inputSchema : (inputSchema config).AllCovered config := by
  refine (covered_sectionOf config "input" (by decide)).bind fun _ hinput => ?_
  refine (covered_declarations (hinput.field "fields") (by decide) (by decide)).bind fun _ _ => ?_
  refine (covered_inputTitle config).bind fun _ _ => ?_
  exact (Covered.list Config.asks_required (hinput.field "required")).bind fun _ _ => .pure trivial

theorem covered_view (all : Aggregate) (name : Scalar) {config : Value} {body : Part}
    (h : body.At config Config.view) : (view all name body).AllCovered config := by
  refine (Covered.table (Config.asks_section (by decide)) h).bind fun _ ht => ?_
  exact (Covered.list Config.asks_viewFields (ht.field "fields")).bind fun _ _ => .pure trivial

theorem covered_datasetSchema (all : Aggregate) : (datasetSchema all config).AllCovered config := by
  refine (covered_datasetPart config "views" (by decide)).bind fun _ hviews => ?_
  exact (Covered.eachEntry hviews fun name _ hbody => covered_view all name hbody).bind
    fun _ _ => .pure trivial

theorem covered_outputSchema : (outputSchema config).AllCovered config :=
  (covered_sectionOf config "output" (by decide)).bind fun _ _ => .pure trivial

theorem covered_documents (verbose : Bool) : (documents verbose config).AllCovered config := by
  refine (covered_manifest config).bind fun _ _ => ?_
  refine (covered_inputSchema config).bind fun _ _ => ?_
  refine (covered_aggregate config).bind fun all _ => ?_
  refine (covered_datasetSchema config all).bind fun _ _ => ?_
  exact (covered_outputSchema config).bind fun _ _ => .pure trivial

theorem covered_defaultInput : (defaultInput config).AllCovered config := by
  refine (covered_sectionOf config "input" (by decide)).bind fun _ hinput => ?_
  refine (covered_declarations (hinput.field "fields") (by decide) (by decide)).bind fun _ _ => ?_
  have hdefaults := hinput.field "defaults"
  exact (Covered.table (Config.asks_section (by decide)) hdefaults).bind fun _ _ => .pure trivial

theorem covered_inputGroups : (inputGroups config).AllCovered config :=
  (covered_inputFields config).bind fun _ _ => .pure trivial

theorem covered_actorIssues : (actorIssues config).AllCovered config :=
  (covered_sectionOf config "actor" (by decide)).bind fun _ _ => .pure trivial

theorem covered_viewReferences : (viewReferences config).AllCovered config := by
  refine (covered_aggregate config).bind fun _ _ => ?_
  refine (covered_datasetPart config "views" (by decide)).bind fun _ hviews => ?_
  exact (Covered.eachEntry hviews fun _ _ hbody => covered_viewFields hbody).bind
    fun _ _ => .pure trivial

theorem covered_groupReferences : (groupReferences config).AllCovered config := by
  refine (covered_datasetPart config "field_groups" (by decide)).bind fun _ _ => ?_
  exact (covered_inputFields config).bind fun _ _ => .pure trivial

theorem covered_references : (references config).AllCovered config := by
  rw [references]
  split
  · exact .pure trivial
  · refine (covered_actorIssues config).bind fun _ _ => ?_
    refine (covered_viewReferences config).bind fun _ _ => ?_
    exact (covered_groupReferences config).bind fun _ _ => .pure trivial

end Inspection

theorem Operation.reads_covered (op : Operation) {config : Value} {x : Read}
    (hx : x ∈ (op.inspection config).reads) : x.Covered config := by
  cases op with
  | documents verbose => exact (Inspection.covered_documents config verbose).reads x hx
  | defaultInput => exact (Inspection.covered_defaultInput config).reads x hx
  | datasetFields => exact (Inspection.covered_aggregate config).reads x hx
  | inputGroups => exact (Inspection.covered_inputGroups config).reads x hx
  | references => exact (Inspection.covered_references config).reads x hx

/-! ## Issues of misread parts -/

theorem Site.value_of_mem_parts_null {site : Site} {p : Part} (h : p ∈ site.parts .null) :
    p.value = .null := by
  cases site with
  | nil => rw [List.mem_singleton.mp h]
  | cons stop rest => cases stop <;> cases h

/-- The part of a misread is one of the config, and breaks what is demanded at its site. -/
theorem Read.Covered.violation {config : Value} {x : Read} (h : x.Covered config) (hx : ¬ x.Fits) :
    config ≠ .null
    ∧ (∃ site : Site, x.part ∈ site.parts config)
    ∧ ∃ v ∈ Config.violations config, v.path = x.part.path := by
  obtain ⟨site, ⟨names, hdemand, hnames⟩, hat⟩ := h
  have hnull : x.part.value ≠ .null := fun hnull => hx (.inl hnull)
  have hpart : x.part ∈ site.parts config := hat.resolve_left hnull
  have hbroken : ¬ (Constraint.type names).Holds x.part.value := by
    rintro ⟨n, hn, htype⟩
    rcases hnames n hn with rfl | rfl
    · exact hnull htype
    · exact hx (.inr htype)
  refine ⟨?_, ⟨site, hpart⟩,
    { (Constraint.type names).violation x.part.value with path := x.part.path }, ?_, rfl⟩
  · rintro rfl
    exact hnull (Site.value_of_mem_parts_null hpart)
  · refine List.mem_flatMap.mpr ⟨_, hdemand, List.mem_map.mpr ⟨x.part, ?_, rfl⟩⟩
    exact List.mem_filter.mpr ⟨hpart, decide_eq_true hbroken⟩

/-- A violation of a demand has an issue, at its path without null keys. -/
theorem Lint.exists_issue {config : Value} (h : config ≠ .null) {v : Violation}
    (hv : v ∈ Config.violations config) :
    ∃ issue ∈ issues config, issue.path =
      SpecPath.join "" ((reportedPath v.path).map Step.display) :=
  ⟨issueOf v.reported,
    (issues_perm h).mem_iff.mpr (List.mem_map_of_mem (List.mem_map_of_mem hv)), rfl⟩

namespace Operation

/-- An operation is the tolerant run of its inspection. If the lint has no issue, the strict run gives
the same. Every part that is read for another kind than its own is a part of the config, and has an
issue at its path without null keys; this is the very path of the part if no null key is on it. A part
that is misread stands at the site of a demand (`Operation.reads_covered`), and so the flat list of the
lint has a violation there. -/
theorem lint_covers_reads (op : Operation) (config : Value) :
    (op.inspection config).tolerant = op.run config
    ∧ (Lint.issues config = [] → (op.inspection config).strict = .ok (op.run config))
    ∧ ∀ x ∈ (op.inspection config).reads, ¬ x.Fits →
        (∃ site : Site, x.part ∈ site.parts config)
        ∧ (∃ issue ∈ Lint.issues config, issue.path =
            SpecPath.join "" ((reportedPath x.part.path).map Step.display))
        ∧ (.entry .null ∉ x.part.path → ∃ issue ∈ Lint.issues config,
            issue.path = SpecPath.join "" (x.part.path.map Step.display)) := by
  have hmisread : ∀ x ∈ (op.inspection config).reads, ¬ x.Fits →
      (∃ site : Site, x.part ∈ site.parts config)
      ∧ ∃ issue ∈ Lint.issues config, issue.path =
          SpecPath.join "" ((reportedPath x.part.path).map Step.display) := by
    intro x hx hfits
    obtain ⟨hnull, hsite, v, hv, hpath⟩ := (op.reads_covered hx).violation hfits
    exact ⟨hsite, hpath ▸ Lint.exists_issue hnull hv⟩
  refine ⟨op.tolerant_inspection config, fun hclean => ?_, fun x hx hfits => ?_⟩
  · have hfits : ∀ x ∈ (op.inspection config).reads, x.Fits := by
      intro x hx
      by_contra hfits
      obtain ⟨-, issue, hissue, -⟩ := hmisread x hx hfits
      rw [hclean] at hissue
      cases hissue
    rw [Inspection.strict_eq_ok hfits, op.tolerant_inspection]
  · obtain ⟨hsite, hissue⟩ := hmisread x hx hfits
    refine ⟨hsite, hissue, fun hkey => ?_⟩
    rwa [reportedPath_eq_self.mpr hkey] at hissue

/-- A text where the list of the fields of a view belongs. -/
def scalarFields : Value := .ofFields [
  ("actor", .ofFields [("name", .str "shop")]),
  ("dataset", .ofFields [
    ("fields", .ofFields [("price", .ofFields [("type", .str "number")])]),
    ("views", .ofFields [("main", .ofFields [("fields", .str "price")])])])]

def listedFields : Value := .ofFields [
  ("actor", .ofFields [("name", .str "shop")]),
  ("dataset", .ofFields [
    ("fields", .ofFields [("price", .null)]),
    ("views", .ofFields [("main", .ofFields [("fields", .list [.str "price"])])])])]

theorem scalarFields_reported :
    (references.inspection listedFields).strict = .ok (references.run listedFields)
    ∧ ∃ issue ∈ Lint.issues scalarFields, issue.path = "/dataset/views/main/fields" := by
  have hclean : Lint.issues listedFields = [] := by decide +kernel
  obtain ⟨x, hx, hfits, hpath⟩ : ∃ x ∈ (references.inspection scalarFields).reads, ¬ x.Fits
      ∧ x.part.path = [.entry (.str "dataset"), .entry (.str "views"), .entry (.str "main"),
          .entry (.str "fields")] := by decide
  obtain ⟨-, -, hreported⟩ := (lint_covers_reads .references scalarFields).2.2 x hx hfits
  rw [hpath] at hreported
  obtain ⟨issue, hmem, hissue⟩ := hreported (by decide)
  exact ⟨(lint_covers_reads .references listedFields).2.1 hclean, issue, hmem,
    hissue.trans (by decide)⟩

/-- A field without a name, and a number in its place. -/
def namelessField : Value := .ofFields [("input", .ofFields [
  ("fields", .mapping [(.null, .int 5)])])]

/-- The field is taken for one that declares nothing, and no issue has its path. -/
theorem namelessField_unreported :
    ∃ x ∈ (inputGroups.inspection namelessField).reads, ¬ x.Fits
      ∧ x.part.path = [.entry (.str "input"), .entry (.str "fields"), .entry .null]
      ∧ ∀ issue ∈ Lint.issues namelessField,
          issue.path ≠ SpecPath.join "" (x.part.path.map Step.display) := by
  decide +kernel

end Operation

end ActorSpec
