import ActorSpec.Lint.Issues
import ActorSpec.Proofs.Demands
import ActorSpec.Proofs.Paths
import Mathlib.Algebra.Order.BigOperators.Group.List

/-!
# What the lint reports

The shape of a config once more, as a flat list that is grouped by what is asked for
(`Config.demands`): which sites hold mappings, which texts, flags, counts. The bundled shape, which
nests the same by sections and shares the common part of its two kinds of field, comes down to this
list (`Bundled.demands_perm`). So the issues of a config are the demands that it breaks, one by one
and in the order of their paths.

One thing is lost on the way: a null key leaves no trace in the path of an issue. An issue about a part
below a null key goes by the path of another site, and only then (`Lint.issues_exact`).
-/

namespace ActorSpec

namespace Config

/-! ## The shape, laid flat -/

def inputField : Site := [.key "input", .key "fields", .entry]

def datasetFields : List Site := [
  [.key "dataset", .key "fields", .entry],
  [.key "dataset", .key "field_groups", .entry, .entry]]

def fields : List Site := inputField :: datasetFields

def view : Site := [.key "dataset", .key "views", .entry]

/-- The entries with some keys of what is at a site. -/
def members (site : Site) (keys : List String) : List Site :=
  keys.map fun key => site ++ [.key key]

/-- Sections, tables and records. -/
def sections : List Site :=
  members [] ["actor", "input", "dataset", "output"]
  ++ members [.key "input"] ["fields", "defaults"]
  ++ members [.key "dataset"] ["fields", "field_groups", "views"]
  ++ [[.key "dataset", .key "field_groups", .entry], view]
  ++ fields
  ++ [[.key "actor", .key "environment_variables"], [.key "output", .key "properties"]]

def texts : List Site :=
  members [.key "actor"] ["name", "title", "version", "build_tag"]
  ++ members [.key "output"] ["title", "description"]
  ++ members view ["title", "component"]
  ++ [[.key "input", .key "required", .item], view ++ [.key "fields", .item]]
  ++ fields.flatMap (members · ["title", "description", "desc", "type", "format"])
  ++ members inputField ["editor", "sectionCaption", "group"]
  ++ datasetFields.flatMap (members · ["label", "itemType"])

def flags : List Site :=
  fields.flatMap (members · ["array"]) ++ datasetFields.flatMap (members · ["nullable"])

/-- Numbers that are whole and not negative. -/
def counts : List Site := members inputField ["minLength", "maxLength"]

def bounds : List Site := members inputField ["minimum", "maximum"]

/-- All that is asked of a config. A section may be null, and so may the required inputs; the fields of
a view may not. The type of a field is asked to be a text and, apart from that, to be one of six. -/
def demands : List Demand :=
  [⟨[], .type [.object]⟩]
  ++ sections.map (⟨·, .type [.object, .null]⟩)
  ++ [⟨[.key "input", .key "required"], .type [.array, .null]⟩,
    ⟨view ++ [.key "fields"], .type [.array]⟩,
    ⟨inputField ++ [.key "enum"], .type [.array]⟩]
  ++ texts.map (⟨·, .type [.string]⟩)
  ++ [⟨[.key "actor", .key "name"], .minLength 1⟩]
  ++ (fields.flatMap (members · ["type"])).map
      (⟨·, .oneOf ["string", "integer", "number", "boolean", "array", "object"]⟩)
  ++ flags.map (⟨·, .type [.boolean]⟩)
  ++ counts.map (⟨·, .type [.integer]⟩)
  ++ counts.map (⟨·, .notNegative⟩)
  ++ bounds.map (⟨·, .type [.number]⟩)
  ++ [⟨[.key "actor", .key "environment_variables", .entry], .type [.string, .number, .boolean]⟩]

/-- Every demand that a config breaks, with the path of the part that breaks it. -/
def violations (config : Value) : List Violation := violationsOf demands config

theorem demands_nodup : demands.Nodup := by decide +kernel

end Config

theorem Bundled.demands_perm : (Shape.demands Bundled.config).Perm Config.demands := by
  decide

/-- The bundled shape finds the broken demands, and nothing else. -/
theorem Bundled.violations_perm (config : Value) :
    (Shape.violations Bundled.config config).Perm
      ((Config.violations config).map Violation.reported) :=
  (rulesViolations_perm Bundled.config config).trans
    ((Bundled.demands_perm.flatMap_right _).map _)

/-! ## Reported paths -/

namespace Lint

theorem issues_eq {config : Value} (h : config ≠ .null) :
    issues config = ((Shape.violations Bundled.config config).mergeSort fun a b =>
      pathLe (tokens a) (tokens b)).map issueOf := by
  unfold issues issuesOf
  split
  · exact absurd rfl h
  · rfl

theorem issues_perm {config : Value} (h : config ≠ .null) :
    (issues config).Perm (((Config.violations config).map Violation.reported).map issueOf) := by
  rw [issues_eq h]
  exact ((List.mergeSort_perm ..).trans (Bundled.violations_perm config)).map _

/-- A path that loses a null key loses some of its text. -/
theorem length_path_reported (v : Violation) :
    reportedPath v.path = v.path
    ∨ (issueOf v.reported).path.toList.length < (issueOf v).path.toList.length := by
  have htokens : (tokens v.reported).Sublist (tokens v) := List.filter_sublist.map _
  rcases SpecPath.length_join_of_sublist htokens with heq | hlt
  · left
    have hlength : (reportedPath v.path).length = v.path.length := by
      simpa [tokens, Violation.reported] using congrArg List.length heq
    exact List.filter_sublist.eq_of_length hlength
  · exact .inr hlt

/-- Reporting without null keys changes a report exactly if there is something below a null key: the
texts of the paths have fewer characters altogether. -/
theorem perm_reported_iff (vs : List Violation) :
    ((vs.map Violation.reported).map issueOf).Perm (vs.map issueOf) ↔
      ∀ v ∈ vs, .entry .null ∉ v.path := by
  constructor
  · intro hperm v hv hnull
    have hle : ∀ u ∈ vs,
        (issueOf u.reported).path.toList.length ≤ (issueOf u).path.toList.length := by
      intro u _
      rcases length_path_reported u with heq | hlt
      · rw [Violation.reported, heq]
      · exact hlt.le
    have hlt : (issueOf v.reported).path.toList.length < (issueOf v).path.toList.length :=
      (length_path_reported v).resolve_left fun heq => reportedPath_eq_self.mp heq hnull
    have hsum := (hperm.map fun i => i.path.toList.length).sum_eq
    rw [List.map_map, List.map_map, List.map_map] at hsum
    exact (List.sum_lt_sum _ _ hle ⟨v, hv, hlt⟩).ne hsum
  · intro h
    rw [List.map_congr_left fun v hv => Violation.reported_of_not_mem (h v hv), List.map_id']

/-! ## The report -/

/-- The report of a config that is not null. Its issues are the demands that the config breaks, each
under its path without null keys, and in the order of the paths; the issues of one path are those that
the rules of the shape meet there, in this order. They have the very paths of the parts that break the
demands exactly if none of these parts is below a null key. The bundled shape is laid flat by a
permutation (`Bundled.violations_perm`), and sorting is stable (`filter_mergeSort`). -/
theorem issues_exact (config : Value) (h : config ≠ .null) :
    (∃ ordered : List Violation, issues config = ordered.map issueOf
      ∧ ordered.Perm ((Config.violations config).map Violation.reported)
      ∧ ordered.Pairwise (fun a b => ¬ List.Lex (· < ·) (tokens b) (tokens a))
      ∧ ∀ path, ordered.filter (tokens · = path) =
          (Shape.violations Bundled.config config).filter (tokens · = path))
    ∧ Config.demands.Nodup
    ∧ ((issues config).Perm ((Config.violations config).map issueOf) ↔
        ∀ v ∈ Config.violations config, .entry .null ∉ v.path) := by
  have trans : ∀ a b c : Violation, pathLe (tokens a) (tokens b) = true →
      pathLe (tokens b) (tokens c) = true → pathLe (tokens a) (tokens c) = true :=
    fun _ _ _ => pathLe_trans
  have total : ∀ a b : Violation, (pathLe (tokens a) (tokens b) || pathLe (tokens b) (tokens a)) =
      true := fun _ _ => pathLe_total ..
  refine ⟨⟨_, issues_eq h, ?_, ?_, ?_⟩, Config.demands_nodup, ?_⟩
  · exact (List.mergeSort_perm ..).trans (Bundled.violations_perm config)
  · exact (List.pairwise_mergeSort trans total _).imp fun h => (pathLe_iff ..).mp h
  · exact filter_mergeSort tokens trans total (fun a b hab => hab ▸ pathLe_refl _) _
  · rw [← perm_reported_iff]
    exact ⟨(issues_perm h).symm.trans, (issues_perm h).trans⟩

/-- Demands of many kinds that are broken, two of them by one value. -/
def eightBrokenDemands : Value := .ofFields [
  ("input", .ofFields [
    ("fields", .ofFields [
      ("pages", .ofFields [("type", .int 5), ("minLength", .int (-1)), ("array", .str "yes")]),
      ("query", .list [])])]),
  ("dataset", .ofFields [("views", .ofFields [("main", .ofFields [("fields", .null)])])]),
  ("actor", .ofFields [("name", .str ""), ("version", .int 1)])]

theorem eightBrokenDemands_reported :
    eightBrokenDemands ≠ .null
    ∧ ((issues eightBrokenDemands).map (·.path)).Perm [
        "/actor/name",
        "/actor/version",
        "/dataset/views/main/fields",
        "/input/fields/pages/array",
        "/input/fields/pages/minLength",
        "/input/fields/pages/type",
        "/input/fields/pages/type",
        "/input/fields/query"] := by
  have hnull : eightBrokenDemands ≠ .null := fun h => nomatch h
  obtain ⟨-, -, hiff⟩ := issues_exact eightBrokenDemands hnull
  have hperm := hiff.mpr (by decide)
  exact ⟨hnull, (hperm.map _).trans (by decide)⟩

/-- A view without a name, and a number in its place. -/
def nameless : Value := .ofFields [("dataset", .ofFields [
  ("views", .mapping [(.null, .int 5)])])]

/-- The issue about the view goes by the path of the table that it is in. -/
theorem nameless_issue_misplaced :
    issues nameless =
      [⟨"/dataset/views: 5 is not of type 'object', 'null'", "/dataset/views"⟩]
    ∧ (Config.violations nameless).map issueOf =
      [⟨"/dataset/views/None: 5 is not of type 'object', 'null'", "/dataset/views/None"⟩]
    ∧ ¬ (issues nameless).Perm ((Config.violations nameless).map issueOf) := by
  decide +kernel

end Lint

end ActorSpec
