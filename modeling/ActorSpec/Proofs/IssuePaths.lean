import ActorSpec.Proofs.Following
import ActorSpec.Proofs.LintReport
import ActorSpec.Proofs.PathTokens
import ActorSpec.Proofs.References
import Mathlib.Data.List.Nodup

/-!
# Where the paths of issues lead

The checks and the lint give every issue a path. In a config with text keys all of them can be followed:
split into its tokens, the path of an issue leads to a value of the config (`Lint.reaches_issue`), and
for a cross reference this is the very value that the message quotes (`follow_listedField`,
`reaches_strayGroup`). No two cross references share a path. Only an actor without a name may be
reported where there is nothing.
-/

namespace ActorSpec

/-! ## Parts at a site -/

/-- A part is where its path says, token for token, and no step of the path is a null key. -/
def Part.IsReached (p : Part) (v : Value) : Prop :=
  v.Reaches (p.path.map Step.display) p.value ∧ Step.entry .null ∉ p.path

theorem Part.IsReached.below {p : Part} {v x : Value} {step : Step} (h : p.IsReached x)
    (hplain : v.isPlain = true) (hstep : v.part? step.display = some x)
    (hnull : step ≠ .entry .null) : (p.below step).IsReached v := by
  constructor
  · exact .cons hplain hstep h.1
  · rw [Part.below, List.mem_cons, not_or]
    exact ⟨hnull.symm, h.2⟩

theorem Site.isReached_parts (site : Site) {v : Value} (hkeys : v.hasTextKeys = true)
    (hv : v.WellFormed) {p : Part} (hp : p ∈ site.parts v) : p.IsReached v := by
  induction site generalizing v p with
  | nil =>
      obtain rfl := List.mem_singleton.mp hp
      exact ⟨.nil v, List.not_mem_nil⟩
  | cons stop rest ih =>
      cases stop with
      | key name =>
          rw [parts] at hp
          split at hp
          · next part hget =>
              obtain ⟨q, hq, rfl⟩ := List.mem_map.mp hp
              obtain ⟨k, hmem, -⟩ := Mapping.mem_of_get? hget
              have hbody := (Value.hasTextKeys_of_mem_asMapping hkeys hmem).2
              have hname : v.part? (Step.entry (.str name)).display = some part := by
                rw [Step.display, Scalar.display]
                exact Value.part?_of_get? hget
              obtain ⟨entries, rfl, -⟩ := Value.exists_of_get? hget
              exact (ih hbody (hv.of_mem_asMapping hmem) hq).below rfl hname (by simp)
          · exact absurd hp List.not_mem_nil
      | entry =>
          rw [parts] at hp
          obtain ⟨e, he, hbelow⟩ := List.mem_flatMap.mp hp
          obtain ⟨q, hq, rfl⟩ := List.mem_map.mp hbelow
          obtain ⟨hkey, hbody⟩ := Value.hasTextKeys_of_mem_asMapping hkeys he
          obtain ⟨text, htext⟩ := Scalar.isText_iff.mp hkey
          have hentry := Value.part?_of_mem hkeys hv he
          cases v with
          | mapping entries =>
              exact (ih hbody (hv.of_mem_asMapping he) hq).below rfl hentry (by simp [htext])
          | _ => exact absurd he List.not_mem_nil
      | item =>
          cases v with
          | list items =>
              obtain ⟨e, he, hbelow⟩ := List.mem_flatMap.mp hp
              obtain ⟨q, hq, rfl⟩ := List.mem_map.mp hbelow
              have hmem : e.1 ∈ items := List.fst_mem_of_mem_zipIdx he
              have hbody := Value.hasTextKeys_of_mem_asList hkeys hmem
              have hindex : (Value.list items).part? (toString e.2) = some e.1 :=
                Value.part?_index he
              exact (ih hbody (hv.of_mem_asList hmem) hq).below rfl hindex (by simp)
          | _ => exact absurd hp List.not_mem_nil

/-! ## The lint -/

namespace Lint

/-- Without null keys no path loses a step on its way into an issue. -/
theorem reaches_issue {config : Value} (hkeys : config.hasTextKeys = true)
    (hconfig : config.WellFormed) {i : Issue} (hi : i ∈ issues config) :
    ∃ v, config.Reaches (SpecPath.split i.path) v := by
  have hnull : config ≠ .null := by
    rintro rfl
    exact absurd hi List.not_mem_nil
  obtain ⟨reported, hreported, rfl⟩ := List.mem_map.mp ((issues_perm hnull).mem_iff.mp hi)
  obtain ⟨v, hv, rfl⟩ := List.mem_map.mp hreported
  obtain ⟨d, -, hd⟩ := List.mem_flatMap.mp hv
  obtain ⟨p, hp, rfl⟩ := List.mem_map.mp hd
  obtain ⟨hreached, hnull⟩ := d.site.isReached_parts hkeys hconfig (List.mem_of_mem_filter hp)
  refine ⟨p.value, ?_⟩
  rw [Violation.reported_of_not_mem hnull, issueOf, SpecPath.split_join]
  exact hreached

end Lint

/-! ## The cross references -/

/-- The tokens of the path that a listed field is reported under. -/
def ListedField.tokens (l : ListedField) : List String :=
  ["dataset", "views", l.view.display, "fields", toString l.index]

/-- The tokens of the path that an input field with a stray group is reported under. -/
def groupTokens (name : Scalar) : List String := ["input", "fields", name.display, "group"]

namespace Config

variable {config : Value}

/-- The fields of a view are an entry of a mapping, and are read as a list. -/
theorem reaches_viewOfField (hkeys : config.hasTextKeys = true) (hconfig : config.WellFormed)
    {l : ListedField} (hl : l ∈ listedFields config) :
    ∃ (view : Mapping Value) (fields : Value),
      config.Reaches ["dataset", "views", l.view.display] (.mapping view)
      ∧ view.get? (.str "fields") = some fields ∧ (l.field, l.index) ∈ fields.asList.zipIdx := by
  obtain ⟨⟨view, body⟩, hview, hl⟩ := List.mem_flatMap.mp hl
  obtain ⟨⟨field, index⟩, hfield, rfl⟩ := List.mem_map.mp hl
  have hdataset := Value.hasTextKeys_field hkeys "dataset"
  have hviews : ((dataset config).field "views").Reaches [view.display] body :=
    .entry (Value.hasTextKeys_field hdataset "views") (wellFormed_dataset_field hconfig "views")
      hview (.nil body)
  rw [viewFields, Mapping.field] at hfield
  cases hget : body.asMapping.get? (.str "fields") with
  | none =>
      rw [hget] at hfield
      exact absurd hfield List.not_mem_nil
  | some fields =>
      rw [hget] at hfield
      obtain ⟨entries, rfl, hentries⟩ := Value.exists_of_get? hget
      exact ⟨entries, fields, hviews.field.field, hentries, hfield⟩

/-- An element of the fields of a view is where its tokens say. -/
theorem follow_listedField (hkeys : config.hasTextKeys = true) (hconfig : config.WellFormed)
    {l : ListedField} (hl : l ∈ listedFields config) : config.follow l.tokens = some l.field := by
  obtain ⟨view, fields, ⟨hview, -⟩, hfields, hindex⟩ := reaches_viewOfField hkeys hconfig hl
  have htokens : l.tokens = ["dataset", "views", l.view.display] ++ ["fields", toString l.index] :=
    rfl
  rw [htokens, Value.follow_append, hview, Option.bind_some, Value.follow_cons, Value.part?, hfields,
    Option.bind_some, Value.follow_cons, Value.part?_index hindex]
  rfl

/-- The group that an input field refers to is where its tokens say. -/
theorem reaches_strayGroup (hkeys : config.hasTextKeys = true) (hconfig : config.WellFormed)
    {e : Scalar × Value} (he : e ∈ strayGroups config) :
    config.Reaches (groupTokens e.1) e.2 := by
  obtain ⟨⟨name, d⟩, hfield, hgroup⟩ := List.mem_filterMap.mp (List.mem_of_mem_filter he)
  obtain ⟨group, hdeclared, rfl⟩ := Option.map_eq_some_iff.mp hgroup
  obtain ⟨⟨key, body⟩, hentry, heq⟩ := List.mem_map.mp hfield
  obtain ⟨rfl, rfl⟩ := Prod.mk.inj heq
  obtain ⟨entries, rfl, hget⟩ := Value.exists_of_get? (Option.filter_eq_some_iff.mp hdeclared).1
  have hbody : (Value.mapping entries).Reaches ["group"] group := .cons rfl hget (.nil group)
  have hinput := Value.hasTextKeys_field hkeys "input"
  have hfields : ((input config).field "fields").Reaches [key.display, "group"] group :=
    .entry (Value.hasTextKeys_field hinput "fields") ((hconfig.field "input").field "fields") hentry
      hbody
  exact hfields.field.field

end Config

/-! ## Distinct paths -/

/-- Keys that name different entries are written differently, if they are texts. -/
theorem Mapping.nodup_display {α : Type} {m : Mapping α} (h : m.Distinct)
    (htext : ∀ e ∈ m, e.1.isText = true) : (m.keys.map Scalar.display).Nodup := by
  refine List.pairwise_map.mpr (List.Pairwise.imp_of_mem ?_ h)
  intro a b ha hb hdiff heq
  obtain ⟨e, he, rfl⟩ := List.mem_map.mp ha
  obtain ⟨e', he', rfl⟩ := List.mem_map.mp hb
  obtain ⟨s, hs⟩ := Scalar.isText_iff.mp (htext e he)
  obtain ⟨s', hs'⟩ := Scalar.isText_iff.mp (htext e' he')
  rw [hs, hs', Scalar.display, Scalar.display] at heq
  rw [hs, hs', heq, Scalar.same_str.mpr rfl] at hdiff
  exact Bool.noConfusion hdiff

namespace Config

variable {config : Value}

/-- A view has its name to itself, and an element of its fields has its index. -/
theorem nodup_listedFields (hkeys : config.hasTextKeys = true) (hconfig : config.WellFormed) :
    ((listedFields config).map ListedField.tokens).Nodup := by
  have hviews : ((views config).keys.map Scalar.display).Nodup :=
    Mapping.nodup_display (wellFormed_dataset_field hconfig "views").asMapping_distinct fun e he =>
      (Value.hasTextKeys_of_mem_asMapping
        (Value.hasTextKeys_field (Value.hasTextKeys_field hkeys "dataset") "views") he).1
  rw [listedFields, List.map_flatMap, List.nodup_flatMap]
  constructor
  · rintro ⟨view, body⟩ -
    have hindices : ((viewFields body).zipIdx.map (·.2)).Nodup := by
      rw [List.zipIdx_map_snd]
      exact List.nodup_range'
    have hinjective : Function.Injective fun index : Nat =>
        ["dataset", "views", view.display, "fields", toString index] := by
      intro i j h
      simp only [List.cons.injEq] at h
      exact toString_injective h.2.2.2.2.1
    have hnodup := hindices.map hinjective
    rwa [List.map_map] at hnodup ⊢
  · rw [Mapping.keys, List.map_map] at hviews
    refine (List.pairwise_map.mp hviews).imp fun {e e'} hdiff tokens he he' => hdiff ?_
    obtain ⟨l, hl, rfl⟩ := List.mem_map.mp he
    obtain ⟨l', hl', heq⟩ := List.mem_map.mp he'
    obtain ⟨x, -, rfl⟩ := List.mem_map.mp hl
    obtain ⟨x', -, rfl⟩ := List.mem_map.mp hl'
    simp only [ListedField.tokens, List.cons.injEq] at heq
    exact heq.2.2.1.symm

theorem nodup_strayGroups (hkeys : config.hasTextKeys = true) (hconfig : config.WellFormed) :
    ((strayGroups config).map fun e => groupTokens e.1).Nodup := by
  have hfields : ((inputFields config).keys.map Scalar.display).Nodup := by
    have hdistinct := ((hconfig.field "input").field "fields").asMapping_distinct
    have htext := Value.hasTextKeys_field (Value.hasTextKeys_field hkeys "input") "fields"
    have hnames := Mapping.nodup_display hdistinct fun e he =>
      (Value.hasTextKeys_of_mem_asMapping htext he).1
    rwa [← Mapping.keys_mapValues Value.asMapping] at hnames
  have hgroups : (inputGroups config).keys.Sublist (inputFields config).keys := by
    have hgiven := Mapping.keys_filterMap (inputFields config) fun d => Mapping.declared? d "group"
    rw [inputGroups, hgiven]
    exact List.filter_sublist.map Prod.fst
  have hstray : (strayGroups config).keys.Sublist (inputFields config).keys :=
    (List.filter_sublist.map Prod.fst).trans hgroups
  have hinjective : Function.Injective fun name : String => ["input", "fields", name, "group"] :=
    fun a b h => by simpa using h
  have hnodup := ((hfields.sublist (hstray.map _)).map hinjective)
  rwa [Mapping.keys, List.map_map, List.map_map] at hnodup

end Config

namespace Check

variable {config : Value}

/-- The kinds of issue of the cross references. -/
theorem cases_of_mem_issues {i : Issue} (h : i ∈ issues config) :
    i = emptyConfig ∨ i = missingActorName
    ∨ (∃ l ∈ Config.danglingFields config, i = l.issue)
    ∨ ∃ e ∈ Config.strayGroups config, i = strayGroupIssue e := by
  rw [issues] at h
  split at h
  · exact .inl (List.mem_singleton.mp h)
  · rcases List.mem_append.mp h with h | hgroup
    · rcases List.mem_append.mp h with hactor | hview
      · rw [actorIssues] at hactor
        split at hactor
        · exact absurd hactor List.not_mem_nil
        · exact .inr (.inl (List.mem_singleton.mp hactor))
      · rw [viewReferences_eq] at hview
        obtain ⟨l, hl, rfl⟩ := List.mem_map.mp hview
        exact .inr (.inr (.inl ⟨l, hl, rfl⟩))
    · rw [groupReferences_eq] at hgroup
      obtain ⟨e, he, rfl⟩ := List.mem_map.mp hgroup
      exact .inr (.inr (.inr ⟨e, he, rfl⟩))

/-- The tokens of all issues of a config that is not blank. -/
def issueTokens (config : Value) : List (List String) :=
  (actorIssues config).map (fun _ => ["actor", "name"])
    ++ (Config.danglingFields config).map ListedField.tokens
    ++ (Config.strayGroups config).map fun e => groupTokens e.1

theorem paths_eq (h : ¬ config.asMapping.isEmpty = true) :
    (issues config).map (·.path) = (issueTokens config).map (SpecPath.join "") := by
  have hactor : (actorIssues config).map (·.path) =
      (actorIssues config).map fun _ => SpecPath.join "" ["actor", "name"] := by
    rw [actorIssues]
    split
    · rfl
    · decide
  rw [issues, if_neg h, issueTokens, viewReferences_eq, groupReferences_eq]
  simp only [List.map_append, List.map_map, hactor]
  rfl

theorem nodup_issueTokens (hkeys : config.hasTextKeys = true) (hconfig : config.WellFormed) :
    (issueTokens config).Nodup := by
  have hviews : ((Config.danglingFields config).map ListedField.tokens).Nodup :=
    (Config.nodup_listedFields hkeys hconfig).sublist (List.filter_sublist.map _)
  have hactor : ((actorIssues config).map fun _ => ["actor", "name"]).Nodup := by
    rw [actorIssues]
    split
    · exact List.nodup_nil
    · exact List.nodup_singleton _
  -- The first token tells the three kinds of issue apart.
  refine List.nodup_append.mpr ⟨List.nodup_append.mpr ⟨hactor, hviews, ?_⟩,
    Config.nodup_strayGroups hkeys hconfig, ?_⟩
  · rintro a ha b hb rfl
    obtain ⟨i, -, rfl⟩ := List.mem_map.mp ha
    obtain ⟨l, -, hl⟩ := List.mem_map.mp hb
    exact absurd (List.cons.inj hl).1 (by decide)
  · rintro a ha b hb rfl
    obtain ⟨e, -, rfl⟩ := List.mem_map.mp hb
    rcases List.mem_append.mp ha with ha | ha
    · obtain ⟨i, -, hi⟩ := List.mem_map.mp ha
      exact absurd (List.cons.inj hi).1 (by decide)
    · obtain ⟨l, -, hl⟩ := List.mem_map.mp ha
      exact absurd (List.cons.inj hl).1 (by decide)

end Check

/-- In a config with text keys the path of every issue leads to a value, but for an actor without a
name. What a cross reference quotes as unknown is the value at the end of its path, and no two cross
references share a path. Paths are compared by their tokens, since joining is injective. -/
theorem issues_lead_into_config (config : Value) (hkeys : config.hasTextKeys = true)
    (hconfig : config.WellFormed) :
    (∀ i ∈ Lint.issues config, ∃ v, config.follow (SpecPath.split i.path) = some v)
    ∧ (∀ i ∈ Check.issues config, i ≠ Check.missingActorName →
        ∃ v, config.follow (SpecPath.split i.path) = some v
          ∧ (i = Check.emptyConfig
            ∨ (∃ view, i.message =
                "View '" ++ view ++ "' references unknown field '" ++ v.display ++ "'")
            ∨ ∃ field, i.message =
                "Input field '" ++ field ++ "' references unknown field_group '"
                  ++ v.display ++ "'"))
    ∧ ((Check.issues config).map (·.path)).Nodup := by
  refine ⟨fun i hi => (Lint.reaches_issue hkeys hconfig hi).imp fun _ h => h.1, ?_, ?_⟩
  · intro i hi hname
    rcases Check.cases_of_mem_issues hi with rfl | rfl | ⟨l, hl, rfl⟩ | ⟨e, he, rfl⟩
    · have hroot : SpecPath.split Check.emptyConfig.path = [] := SpecPath.split_join []
      rw [hroot]
      exact ⟨config, rfl, .inl rfl⟩
    · exact absurd rfl hname
    · refine ⟨l.field, ?_, .inr (.inl ⟨l.view.display, rfl⟩)⟩
      have hpath : SpecPath.split l.issue.path = l.tokens := SpecPath.split_join _
      rw [hpath]
      exact Config.follow_listedField hkeys hconfig (List.mem_of_mem_filter hl)
    · refine ⟨e.2, ?_, .inr (.inr ⟨e.1.display, rfl⟩)⟩
      have hpath : SpecPath.split (strayGroupIssue e).path = groupTokens e.1 :=
        SpecPath.split_join _
      rw [hpath]
      exact (Config.reaches_strayGroup hkeys hconfig he).1
  · by_cases hblank : config.asMapping.isEmpty = true
    · rw [Check.issues, if_pos hblank]
      exact List.nodup_singleton _
    · rw [Check.paths_eq hblank]
      exact (Check.nodup_issueTokens hkeys hconfig).map fun _ _ => SpecPath.join_injective

/-- Names with slashes and tildes in them, one that looks like an escape, and an empty one. -/
def slashedNames : Value := .ofFields [
  ("dataset", .ofFields [("views", .ofFields [
    ("a/b", .ofFields [("fields", .list [.str "~1", .list [.int 1], .str "c/d"])]),
    ("a~1b", .ofFields [("fields", .list [.str ""])])])]),
  ("input", .ofFields [("fields", .ofFields [("", .ofFields [("group", .str "0/~")])])])]

theorem slashedNames_issues :
    slashedNames.hasTextKeys = true ∧ slashedNames.WellFormed
    ∧ (Check.issues slashedNames).map (·.path) = [
        "/actor/name",
        "/dataset/views/a~1b/fields/0",
        "/dataset/views/a~1b/fields/1",
        "/dataset/views/a~1b/fields/2",
        "/dataset/views/a~01b/fields/0",
        "/input/fields//group"]
    ∧ (∀ i ∈ Check.issues slashedNames, i ≠ Check.missingActorName →
        ∃ v, slashedNames.follow (SpecPath.split i.path) = some v)
    ∧ (slashedNames.follow (SpecPath.split "/input/fields//group")).map Value.display
        = some "0/~" := by
  have hkeys : slashedNames.hasTextKeys = true := by decide
  have hconfig : slashedNames.WellFormed :=
    Value.wellFormed_of_isWellFormed _ (by decide)
  obtain ⟨-, hlead, -⟩ := issues_lead_into_config slashedNames hkeys hconfig
  refine ⟨hkeys, hconfig, by decide +kernel, ?_, by decide⟩
  intro i hi hname
  obtain ⟨v, hv, -⟩ := hlead i hi hname
  exact ⟨v, hv⟩

end ActorSpec
