import ActorSpec.Proofs.IssuePaths
import ActorSpec.Proofs.SourcePositions

/-!
# Data and positions of one spec

The data of a spec and the positions of its values come from the same tree, by two ways. One induction
over the tokens ties them together (`Yaml.Node.follow_value`): the data at the end of some tokens is made
of the last nodes that have them, and the positions are those of the first (`SourceMap.find?_ofNode`).
Where there is a last node there is a first one, so a value has a position (`Spec.positions_cover`); both
are one node if no token on the way is repeated (`Spec.positions_exact`).

The induction stops at sets and at pairs, which have parts of their own making. No issue is reported for
such a part: the checks read sets and pairs as a whole (`Spec.reaches_of_issue`).
-/

namespace ActorSpec

namespace Spec

/-- The root of the tree of a text, if there is one. -/
def root? (text : String) : Option Yaml.Node := (Yaml.Node.ofText text).toOption.join

/-- Every key that a text has in a mapping is a text. -/
def hasTextKeys (text : String) : Bool := (root? text).all Yaml.Node.hasTextKeys

variable {text origin : String} {spec : Spec} {tokens : List String}

/-- The two ways from an accepted text. -/
theorem content_and_positions (h : ofText text origin = .ok spec) :
    contentOf text origin = .ok spec.content ∧ SourceMap.ofText text = .ok spec.positions := by
  obtain ⟨content, hcontent, h⟩ := exists_of_bind_eq_ok h
  obtain ⟨positions, hmap, h⟩ := exists_of_bind_eq_ok h
  obtain rfl := Except.ok.inj h
  refine ⟨hcontent, ?_⟩
  cases hp : SourceMap.ofText text with
  | error fault =>
      rw [hp] at hmap
      cases hmap
  | ok found =>
      rw [hp] at hmap
      exact congrArg Except.ok (Except.ok.inj hmap)

/-- The content of a spec is the mapping that its text holds; a null stands for an empty one. -/
theorem data_of_contentOf {content : Mapping Value} (h : contentOf text origin = .ok content) :
    ∃ v, dataOf text = .ok v ∧ (v = .mapping content ∨ (v = .null ∧ content = [])) := by
  unfold contentOf at h
  split at h
  · next entries hentries =>
      exact ⟨_, hentries, .inl (congrArg Value.mapping (Except.ok.inj h))⟩
  · next hnull => exact ⟨_, hnull, .inr ⟨rfl, (Except.ok.inj h).symm⟩⟩
  all_goals cases h

/-- What an accepted text is made of. -/
theorem ofText_cases (h : ofText text origin = .ok spec) :
    (Yaml.Node.ofText text = .ok none ∧ spec.content = [] ∧ spec.positions = [])
    ∨ ∃ root, Yaml.Node.ofText text = .ok (some root) ∧ root.faults = []
      ∧ spec.positions = SourceMap.ofNode root
      ∧ (root.value = .mapping spec.content ∨ (root.value = .null ∧ spec.content = [])) := by
  obtain ⟨hcontent, hpositions⟩ := content_and_positions h
  obtain ⟨v, hv, hkind⟩ := data_of_contentOf hcontent
  rw [dataOf] at hv
  unfold SourceMap.ofText at hpositions
  cases htree : Yaml.Node.ofText text with
  | error fault =>
      rw [htree] at hv
      cases hv
  | ok root? =>
      rw [htree] at hv hpositions
      cases root? with
      | none =>
          obtain rfl : Value.null = v := Except.ok.inj hv
          obtain ⟨-, hempty⟩ := hkind.resolve_left fun h => nomatch h
          exact .inl ⟨rfl, hempty, (Except.ok.inj hpositions).symm⟩
      | some root =>
          obtain ⟨hfaults, hvalue⟩ := Yaml.Node.faults_of_data (show root.data = .ok v from hv)
          exact .inr ⟨root, rfl, hfaults, (Except.ok.inj hpositions).symm, hvalue ▸ hkind⟩

/-- What is found of a text when it is read has been found of a spec. -/
theorem exists_of_accepted {found : Spec → Bool}
    (h : (ofText text origin).toOption.any found = true) :
    ∃ spec, ofText text origin = .ok spec ∧ found spec = true := by
  cases hspec : ofText text origin with
  | error fault =>
      rw [hspec] at h
      cases h
  | ok spec =>
      rw [hspec] at h
      exact ⟨spec, rfl, h⟩

/-- A spec with anything in it has a root, whose value it is. -/
theorem exists_root (h : ofText text origin = .ok spec) (hkeys : hasTextKeys text = true)
    (hcontent : spec.content ≠ []) :
    ∃ root : Yaml.Node, root.value = .mapping spec.content ∧ root.hasTextKeys = true
      ∧ root.faultsFrom 0 = [] := by
  rcases ofText_cases h with ⟨-, hempty, -⟩ | ⟨root, hroot, hfaults, -, hvalue⟩
  · exact absurd hempty hcontent
  · rw [hasTextKeys, root?, hroot] at hkeys
    rcases hvalue with hmapping | ⟨-, hempty⟩
    · exact ⟨root, hmapping, hkeys, hfaults⟩
    · exact absurd hempty hcontent

/-- The data is followed to the last nodes with the tokens. -/
theorem follow_content (h : ofText text origin = .ok spec) (hkeys : hasTextKeys text = true)
    (htokens : tokens ≠ []) (hplain : (Value.mapping spec.content).staysPlain tokens = true) :
    Option.Rel Yaml.Node.Gives ((root? text).bind (·.origin? tokens))
      ((Value.mapping spec.content).follow tokens) := by
  obtain ⟨token, rest, rfl⟩ := List.exists_cons_of_ne_nil htokens
  rcases ofText_cases h with ⟨hnone, hempty, -⟩ | ⟨root, hroot, hfaults, -, hvalue⟩
  · rw [root?, hnone, hempty]
    exact .none
  · have hsome : root? text = some root := by rw [root?, hroot]; rfl
    rw [hasTextKeys, hsome] at hkeys
    rw [hsome, Option.bind_some]
    rcases hvalue with hmapping | ⟨hnull, hempty⟩
    · rw [← hmapping] at hplain ⊢
      exact Yaml.Node.follow_value hkeys hfaults hplain
    · have hnothing : Value.follow (.mapping []) (token :: rest) = root.value.follow (token :: rest) := by
        rw [hnull]
        rfl
      rw [hempty, hnothing]
      refine Yaml.Node.follow_value hkeys hfaults ?_
      rw [hnull]
      rfl

/-- The positions are those of the first nodes with the tokens. -/
theorem find?_positions (h : ofText text origin = .ok spec) (tokens : List String) :
    spec.positions.find? (SpecPath.join "" tokens) =
      ((root? text).bind (·.firstAt? tokens)).map SourceMap.positionOf := by
  rcases ofText_cases h with ⟨hnone, -, hempty⟩ | ⟨root, hroot, -, hpositions, -⟩
  · rw [root?, hnone, hempty]
    rfl
  · rw [root?, hroot, hpositions, SourceMap.find?_ofNode]
    rfl

/-- Whatever value of a spec some tokens reach, its path has a line and a column. -/
theorem find?_of_reaches (h : ofText text origin = .ok spec) (hkeys : hasTextKeys text = true)
    (htokens : tokens ≠ []) {v : Value} (hv : (Value.mapping spec.content).Reaches tokens v) :
    ∃ node : Yaml.Node,
      spec.positions.find? (SpecPath.join "" tokens) = some (SourceMap.positionOf node) := by
  have hrel := follow_content h hkeys htokens hv.2
  rw [hv.1] at hrel
  cases horigin : (root? text).bind (·.origin? tokens) with
  | none =>
      rw [horigin] at hrel
      cases hrel
  | some last =>
      obtain ⟨root, hroot, hlast⟩ := Option.bind_eq_some_iff.mp horigin
      have hfirst := Yaml.Node.isSome_firstAt? (Option.isSome_of_eq_some hlast)
      obtain ⟨node, hnode⟩ := Option.isSome_iff_exists.mp hfirst
      refine ⟨node, ?_⟩
      rw [find?_positions h, hroot, Option.bind_some, hnode, Option.map_some]

/-! ## Issues -/

/-- Only a mapping has a part behind a token that is no index. -/
theorem reaches_of_part? {v part : Value} {token : String} (h : v.part? token = some part)
    (htoken : decimal? token = none) : v.Reaches [token] part := by
  cases v with
  | mapping entries => exact .cons rfl h (.nil part)
  | list items => rw [Value.part?, htoken] at h; cases h
  | tuple items => rw [Value.part?, htoken] at h; cases h
  | _ => cases h

/-- The path of an issue that leads to a value does so by way of mappings and lists only. -/
theorem reaches_of_issue (h : ofText text origin = .ok spec) (hkeys : hasTextKeys text = true)
    {schemas : Value} (hschemas : spec.content.get? (.str "schemas") = some schemas) {i : Issue}
    (hi : i ∈ Check.issues schemas ++ Lint.issues schemas) {v : Value}
    (hv : schemas.follow (SpecPath.split i.path) = some v) :
    (Value.mapping spec.content).Reaches ("schemas" :: SpecPath.split i.path) v := by
  have hcontent : spec.content ≠ [] := by
    intro hempty
    rw [hempty] at hschemas
    cases hschemas
  obtain ⟨root, hroot, hrootKeys, hfaults⟩ := exists_root h hkeys hcontent
  have hwell : (Value.mapping spec.content).WellFormed := hroot ▸ root.value_wellFormed
  have htext : (Value.mapping spec.content).hasTextKeys = true :=
    hroot ▸ root.hasTextKeys_value hrootKeys
  obtain ⟨k, hmem, -⟩ := Mapping.mem_of_get? hschemas
  have hschemasKeys := (Value.hasTextKeys_of_mem_asMapping htext hmem).2
  have hschemasWell := hwell.of_mem_asMapping (v := .mapping spec.content) hmem
  refine .cons rfl hschemas ?_
  rcases List.mem_append.mp hi with hcheck | hlint
  · rcases Check.cases_of_mem_issues hcheck with rfl | rfl | ⟨l, hl, rfl⟩ | ⟨e, he, rfl⟩
    · have hpath : SpecPath.split Check.emptyConfig.path = [] := SpecPath.split_join []
      rw [hpath] at hv ⊢
      exact ⟨hv, rfl⟩
    · have hpath : SpecPath.split Check.missingActorName.path = ["actor", "name"] := by
        decide
      rw [hpath] at hv ⊢
      obtain ⟨actor, hactor, hrest⟩ := Option.bind_eq_some_iff.mp hv
      obtain ⟨name, hname, hend⟩ := Option.bind_eq_some_iff.mp hrest
      have hstep := reaches_of_part? hactor (by decide)
      have hlast := reaches_of_part? hname (by decide)
      rw [show v = name from (Option.some.inj hend).symm]
      exact .cons (Value.isPlain_of_staysPlain hstep.2) hactor hlast
    · have hpath : SpecPath.split l.issue.path = l.tokens := SpecPath.split_join _
      rw [hpath] at hv ⊢
      refine ⟨hv, ?_⟩
      obtain ⟨view, fields, hview, hfields, hindex⟩ :=
        Config.reaches_viewOfField hschemasKeys hschemasWell (List.mem_of_mem_filter hl)
      have hreached : (Value.mapping spec.content).Reaches
          ["schemas", "dataset", "views", l.view.display] (.mapping view) := .cons rfl hschemas hview
      -- The list of the fields is no pair, since it is an entry.
      have hlist : fields.isPlain = true := by
        cases fields with
        | tuple items =>
            rw [← hroot] at hreached
            exact absurd rfl
              (Yaml.Node.entry_ne_tuple hrootKeys hfaults hreached.2 hreached.1 hfields items)
        | set members => exact absurd hindex List.not_mem_nil
        | _ => rfl
      have htokens : l.tokens =
          ["dataset", "views", l.view.display] ++ ["fields", toString l.index] := rfl
      have hlast : (Value.mapping view).Reaches ["fields", toString l.index] l.field :=
        .cons rfl hfields (.cons hlist (Value.part?_index hindex) (.nil l.field))
      rw [htokens, Value.staysPlain_append, hview.1, hview.2]
      exact hlast.2
    · have hpath : SpecPath.split (strayGroupIssue e).path = groupTokens e.1 :=
        SpecPath.split_join _
      rw [hpath] at hv ⊢
      exact ⟨hv, (Config.reaches_strayGroup hschemasKeys hschemasWell he).2⟩
  · obtain ⟨_, -, hplain⟩ := Lint.reaches_issue hschemasKeys hschemasWell hlint
    exact ⟨hv, hplain⟩

end Spec

/-- The path of an issue is joined of tokens. -/
theorem join_of_issue {config : Value} {i : Issue} (hi : i ∈ Check.issues config ++ Lint.issues config) :
    ∃ tokens, i.path = SpecPath.join "" tokens := by
  rcases List.mem_append.mp hi with hcheck | hlint
  · rcases Check.cases_of_mem_issues hcheck with rfl | rfl | ⟨l, -, rfl⟩ | ⟨e, -, rfl⟩
    · exact ⟨[], rfl⟩
    · exact ⟨["actor", "name"], by decide⟩
    · exact ⟨l.tokens, rfl⟩
    · exact ⟨groupTokens e.1, rfl⟩
  · rw [Lint.issues] at hlint
    unfold Lint.issuesOf at hlint
    split at hlint
    · exact absurd hlint List.not_mem_nil
    · obtain ⟨v, -, rfl⟩ := List.mem_map.mp hlint
      exact ⟨Lint.tokens v, rfl⟩

namespace Spec

variable {text origin : String} {spec : Spec}

/-- Every value that is reached in a spec with text keys, by way of mappings and lists, has a position
under its path, with a line and a column from one. An issue of the `schemas` section that leads to a
value there is reported with both. A value has a last node at its tokens, and where there is a last one
there is a first (`find?_of_reaches`). -/
theorem positions_cover (h : ofText text origin = .ok spec) (hkeys : hasTextKeys text = true) :
    (∀ tokens ≠ [], ∀ v, (Value.mapping spec.content).Reaches tokens v →
      ∃ line column : Int, 1 ≤ line ∧ 1 ≤ column ∧
        spec.positions.find? (SpecPath.join "" tokens) = some ⟨some line, some column⟩)
    ∧ ∀ schemas, spec.content.get? (.str "schemas") = some schemas →
        ∀ i ∈ Check.issues schemas ++ Lint.issues schemas,
        ∀ v, schemas.follow (SpecPath.split i.path) = some v → ∀ file,
        ∃ line column : Int,
          (Location.find spec.positions (some (SpecPath.inSchemas i.path)) file).position =
            ⟨some line, some column⟩ := by
  constructor
  · intro tokens htokens v hv
    obtain ⟨node, hnode⟩ := find?_of_reaches h hkeys htokens hv
    refine ⟨node.start.line + 1, node.start.column + 1, ?_, ?_, hnode⟩ <;> omega
  · intro schemas hschemas i hi v hv file
    have hreached := reaches_of_issue h hkeys hschemas hi hv
    obtain ⟨tokens, htokens⟩ := join_of_issue hi
    rw [htokens, SpecPath.split_join] at hreached
    obtain ⟨node, hnode⟩ := find?_of_reaches h hkeys (List.cons_ne_nil _ _) hreached
    rw [← SpecPath.inSchemas_join] at hnode
    have hpath : SpecPath.inSchemas (SpecPath.join "" tokens) ≠ "" := by
      intro hempty
      have hlist := congrArg String.toList hempty
      rw [SpecPath.inSchemas, String.toList_append] at hlist
      exact absurd (List.append_eq_nil_iff.mp hlist).1 (by decide)
    refine ⟨node.start.line + 1, node.start.column + 1, ?_⟩
    rw [htokens, Location.find, Option.filter_some, if_pos (bne_iff_ne.mpr hpath),
      Option.bind_some, hnode]
    rfl

/-- An entry that a written-out tag makes a pair of. -/
def pairedEntry : String := "a: !!omap [x: 1]\n"

/-- The parts of a pair have no positions: the text has an entry there. -/
theorem pairedEntry_unmapped :
    ∃ spec, ofText pairedEntry "paired.yml" = .ok spec
      ∧ hasTextKeys pairedEntry = true
      ∧ ((Value.mapping spec.content).follow ["a", "0", "0"]).map Value.display = some "x"
      ∧ spec.positions.find? (SpecPath.join "" ["a", "0", "0"]) = none
      ∧ spec.positions.find? (SpecPath.join "" ["a", "0", "x"]) = some ⟨some 1, some 15⟩ := by
  have hread : (ofText pairedEntry "paired.yml").toOption.any (fun spec =>
      hasTextKeys pairedEntry = true
        ∧ ((Value.mapping spec.content).follow ["a", "0", "0"]).map Value.display = some "x"
        ∧ ((root? pairedEntry).bind (·.firstAt? ["a", "0", "0"])).map SourceMap.positionOf = none
        ∧ ((root? pairedEntry).bind (·.firstAt? ["a", "0", "x"])).map SourceMap.positionOf =
            some ⟨some 1, some 15⟩) = true := by
    decide +kernel
  obtain ⟨spec, hok, hfound⟩ := exists_of_accepted hread
  obtain ⟨hkeys, hvalue, hgone, hleft⟩ := of_decide_eq_true hfound
  exact ⟨spec, hok, hkeys, hvalue, (find?_positions hok _).trans hgone, (find?_positions hok _).trans hleft⟩

/-- An actor that is written once and read in two places, one of which is written again. -/
def sharedActor : String :=
  "schemas:\n  actor: &a\n    name: ''\n  input: *a\n  input:\n    fields:\n      f:\n        group: g\n"

theorem exists_sharedActor :
    ∃ spec schemas, ofText sharedActor "actor.yml" = .ok spec
      ∧ spec.content.get? (.str "schemas") = some schemas
      ∧ hasTextKeys sharedActor = true
      ∧ (Check.issues schemas).map (·.path) = ["/actor/name", "/input/fields/f/group"]
      ∧ (∀ i ∈ Check.issues schemas, (schemas.follow (SpecPath.split i.path)).isSome = true)
      ∧ (root? sharedActor).all (·.isUnrepeated ["schemas", "actor", "name"]) = true
      ∧ ((root? sharedActor).bind (·.firstAt? ["schemas", "actor", "name"])).map
          SourceMap.positionOf = some ⟨some 3, some 11⟩ := by
  have hread : (ofText sharedActor "actor.yml").toOption.any (fun spec =>
      (spec.content.get? (.str "schemas")).any fun schemas =>
        hasTextKeys sharedActor = true
          ∧ (Check.issues schemas).map (·.path) = ["/actor/name", "/input/fields/f/group"]
          ∧ (∀ i ∈ Check.issues schemas, (schemas.follow (SpecPath.split i.path)).isSome = true)
          ∧ (root? sharedActor).all (·.isUnrepeated ["schemas", "actor", "name"]) = true
          ∧ ((root? sharedActor).bind (·.firstAt? ["schemas", "actor", "name"])).map
              SourceMap.positionOf = some ⟨some 3, some 11⟩) = true := by
    decide +kernel
  obtain ⟨spec, hok, hspec⟩ := exists_of_accepted hread
  obtain ⟨schemas, hget, hfound⟩ := (Option.any_eq_true ..).mp hspec
  exact ⟨spec, schemas, hok, hget, of_decide_eq_true hfound⟩

theorem sharedActor_positions :
    ∃ spec schemas, ofText sharedActor "actor.yml" = .ok spec
      ∧ hasTextKeys sharedActor = true
      ∧ spec.content.get? (.str "schemas") = some schemas
      ∧ (Check.issues schemas).map (·.path) = ["/actor/name", "/input/fields/f/group"]
      ∧ ∀ i ∈ Check.issues schemas, ∀ file, ∃ line column : Int,
          (Location.find spec.positions (some (SpecPath.inSchemas i.path)) file).position =
            ⟨some line, some column⟩ := by
  obtain ⟨spec, schemas, hok, hget, hkeys, hpaths, hfollow, -, -⟩ := exists_sharedActor
  refine ⟨spec, schemas, hok, hkeys, hget, hpaths, fun i hi file => ?_⟩
  obtain ⟨v, hv⟩ := Option.isSome_iff_exists.mp (hfollow i hi)
  exact (positions_cover hok hkeys).2 schemas hget i (List.mem_append_left _ hi) v hv file

/-- The positions of a spec with text keys are those of the first nodes in the text, the values those of
the last. Both are the same node, and where there is no value there is no position, unless a token on
the way is repeated or leads into a set or a pair. Nothing but paths that are joined of tokens has a
position. Which of the nodes with the same tokens is meant is all that tells the two apart
(`Yaml.Node.origin?`, `Yaml.Node.firstAt?`). -/
theorem positions_exact (h : ofText text origin = .ok spec) (hkeys : hasTextKeys text = true) :
    (∀ tokens ≠ [],
      ((Value.mapping spec.content).staysPlain tokens = true →
          Option.Rel Yaml.Node.Gives ((root? text).bind (·.origin? tokens))
            ((Value.mapping spec.content).follow tokens))
      ∧ spec.positions.find? (SpecPath.join "" tokens) =
          ((root? text).bind (·.firstAt? tokens)).map SourceMap.positionOf
      ∧ ((root? text).all (·.isUnrepeated tokens) = true →
          spec.positions.find? (SpecPath.join "" tokens) =
            ((root? text).bind (·.origin? tokens)).map SourceMap.positionOf))
    ∧ ∀ path position, spec.positions.find? path = some position →
        ∃ tokens, path = SpecPath.join "" tokens := by
  constructor
  · intro tokens htokens
    refine ⟨fun hplain => follow_content h hkeys htokens hplain, find?_positions h tokens, fun honce => ?_⟩
    rw [find?_positions h]
    cases hroot : root? text with
    | none => rfl
    | some root =>
        rw [hroot] at honce
        rw [Option.bind_some, Option.bind_some, Yaml.Node.firstAt?_eq_origin? honce]
  · intro path position hfind
    rcases ofText_cases h with ⟨-, -, hempty⟩ | ⟨root, -, -, hpositions, -⟩
    · rw [hempty] at hfind
      cases hfind
    · rw [hpositions] at hfind
      exact SourceMap.join_of_find?_ofNode hfind

theorem sharedActor_exact :
    ∃ spec, ofText sharedActor "actor.yml" = .ok spec
      ∧ hasTextKeys sharedActor = true
      ∧ spec.positions.find? (SpecPath.join "" ["schemas", "actor", "name"]) =
          ((root? sharedActor).bind (·.origin? ["schemas", "actor", "name"])).map
            SourceMap.positionOf
      ∧ spec.positions.find? (SpecPath.join "" ["schemas", "actor", "name"]) =
          some ⟨some 3, some 11⟩ := by
  obtain ⟨spec, -, hok, -, hkeys, -, -, honce, hposition⟩ := exists_sharedActor
  have hname := (positions_exact hok hkeys).1 ["schemas", "actor", "name"] (by decide)
  exact ⟨spec, hok, hkeys, hname.2.2 honce, (find?_positions hok _).trans hposition⟩

/-- The number that is used is on the third line, the mapping that it replaces on the second. -/
def repeatedKey : String := "a:\n  x: 1\na: 2\n"

/-- A repeated key has its value from its last entry and its position from its first, and what the first
alone has is left in the map. -/
theorem repeatedKey_misplaced :
    ∃ spec, ofText repeatedKey "repeated.yml" = .ok spec
      ∧ hasTextKeys repeatedKey = true
      ∧ ((Value.mapping spec.content).follow ["a"]).map Value.display = some "2"
      ∧ ((root? repeatedKey).bind (·.origin? ["a"])).map SourceMap.positionOf =
          some ⟨some 3, some 4⟩
      ∧ spec.positions.find? (SpecPath.join "" ["a"]) = some ⟨some 2, some 3⟩
      ∧ ((Value.mapping spec.content).follow ["a", "x"]).isNone = true
      ∧ spec.positions.find? (SpecPath.join "" ["a", "x"]) = some ⟨some 2, some 6⟩ := by
  have hread : (ofText repeatedKey "repeated.yml").toOption.any (fun spec =>
      hasTextKeys repeatedKey = true
        ∧ ((Value.mapping spec.content).follow ["a"]).map Value.display = some "2"
        ∧ ((root? repeatedKey).bind (·.origin? ["a"])).map SourceMap.positionOf = some ⟨some 3, some 4⟩
        ∧ ((root? repeatedKey).bind (·.firstAt? ["a"])).map SourceMap.positionOf = some ⟨some 2, some 3⟩
        ∧ ((Value.mapping spec.content).follow ["a", "x"]).isNone = true
        ∧ ((root? repeatedKey).bind (·.firstAt? ["a", "x"])).map SourceMap.positionOf =
            some ⟨some 2, some 6⟩) = true := by
    decide +kernel
  obtain ⟨spec, hok, hfound⟩ := exists_of_accepted hread
  obtain ⟨hkeys, hvalue, hlast, hfirst, hgone, hleft⟩ := of_decide_eq_true hfound
  exact ⟨spec, hok, hkeys, hvalue, hlast, (find?_positions hok _).trans hfirst, hgone,
    (find?_positions hok _).trans hleft⟩

end Spec

end ActorSpec
