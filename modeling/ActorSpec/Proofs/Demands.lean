import Mathlib.Data.List.Perm.Basic
import ActorSpec.Proofs.Shape

/-!
# Shapes as lists of demands

A shape nests rules the way a value nests its parts. Laid flat it is a list of demands: a constraint on
a single value, and the site of the values that it is meant for. A site is a pattern of paths, so one
demand is about all fields of a table at once.

`Rule.demands` lays a rule flat, and `rulesViolations_perm` says that nothing gets lost: checking a
value against a shape gives one violation for every demand and every part at its site that breaks the
constraint, whatever the shape and however deep the value. Only the order is another one, and null keys
are missing from the paths (`Violation.reported`).
-/

namespace ActorSpec

/-! ## Sites -/

/-- A step of a site. -/
inductive Stop where
  /-- The entry with a key. -/
  | key (name : String)
  /-- Every entry. -/
  | entry
  /-- Every item. -/
  | item
deriving DecidableEq

/-- Where in a value something is asked for, as a pattern of paths. -/
abbrev Site := List Stop

/-- A value and the path to it from the value around it. -/
structure Part where
  path : List Step
  value : Value

def Part.below (step : Step) (p : Part) : Part := { p with path := step :: p.path }

/-- All that a value has at a site. -/
def Site.parts : Site → Value → List Part
  | [], v => [⟨[], v⟩]
  | .key name :: rest, v =>
    match v.asMapping.get? (.str name) with
    | some part => (parts rest part).map (·.below (.entry (.str name)))
    | none => []
  | .entry :: rest, v => v.asMapping.flatMap fun e => (parts rest e.2).map (·.below (.entry e.1))
  | .item :: rest, v =>
    match v with
    | .list items => items.zipIdx.flatMap fun e => (parts rest e.1).map (·.below (.index e.2))
    | _ => []

/-! ## Demands -/

/-- What is asked of a single value. -/
inductive Constraint where
  | type (names : List TypeName)
  | minLength (size : Nat)
  | notNegative
  | oneOf (texts : List String)
deriving DecidableEq

/-- The values of a type. A whole double is an integer; a boolean is no number. -/
def TypeName.IsTypeOf : TypeName → Value → Prop
  | .string, v => v.IsText
  | .integer, v => (∃ n, v = .int n) ∨ ∃ x n, v = .scalar (.float x) ∧ x.toInt? = some n
  | .number, v => v.IsNumber
  | .boolean, v => v.IsFlag
  | .array, v => ∃ items, v = .list items
  | .object, v => ∃ entries, v = .mapping entries
  | .null, v => v = .null

theorem TypeName.admits_iff (n : TypeName) {v : Value} : n.admits v = true ↔ n.IsTypeOf v := by
  cases n with
  | string => exact admits_string
  | integer => exact admits_integer
  | number => exact admits_number
  | boolean => exact admits_boolean
  | array => exact admits_array
  | object => exact admits_object
  | null => exact admits_null

namespace Constraint

/-- Texts are long enough, numbers not below zero; values of other kinds have no length and no sign. -/
def Holds : Constraint → Value → Prop
  | .type names, v => ∃ n ∈ names, n.IsTypeOf v
  | .minLength size, v => ∀ s, v = .str s → size ≤ s.length
  | .notNegative, v =>
    (∀ n, v = .int n → 0 ≤ n) ∧ ∀ x, v = .scalar (.float x) → x.isNegative = false
  | .oneOf texts, v => ∃ s ∈ texts, v = .str s

/-- The constraint as a rule of a shape. -/
def rule : Constraint → Rule
  | .type names => .type names
  | .minLength size => .minLength size
  | .notNegative => .notNegative
  | .oneOf texts => .oneOf texts

/-- What is wrong with a value that breaks the constraint. -/
def violation : Constraint → Value → Violation
  | .type names, v => .notOfType v names
  | .minLength size, v => .tooShort v size
  | .notNegative, v => .negative v
  | .oneOf texts, v => .notOneOf v texts

theorem holds_iff (c : Constraint) (v : Value) : c.Holds v ↔ c.rule.violations v = [] := by
  cases c with
  | type names =>
      rw [rule, Rule.violations_type]
      exact exists_congr fun n => and_congr_right fun _ => n.admits_iff.symm
  | minLength size => exact (Rule.violations_minLength size v).symm
  | notNegative =>
      rw [rule, Rule.violations_notNegative]
      constructor
      · rintro ⟨hint, hfloat⟩
        unfold Value.isNegative
        split
        · next n => exact decide_eq_false (Int.not_lt.mpr (hint n rfl))
        · next x => exact hfloat x rfl
        · rfl
      · intro h
        constructor
        · rintro n rfl
          exact Int.not_lt.mp (of_decide_eq_false h)
        · rintro x rfl
          exact h
  | oneOf texts => exact (Rule.violations_oneOf texts v).symm

instance (c : Constraint) (v : Value) : Decidable (c.Holds v) :=
  decidable_of_iff ((c.rule.violations v).isEmpty = true)
    (List.isEmpty_iff.trans (c.holds_iff v).symm)

/-- A single value breaks a constraint once or not at all. -/
theorem violations_rule (c : Constraint) (v : Value) :
    c.rule.violations v = if c.Holds v then [] else [c.violation v] := by
  have hcases : c.rule.violations v = [] ∨ c.rule.violations v = [c.violation v] := by
    cases c with
    | type names =>
        rw [rule, Rule.type_violations]
        split
        · exact .inl rfl
        · exact .inr rfl
    | minLength size =>
        rw [rule, Rule.minLength_violations]
        split
        · split
          · exact .inr rfl
          · exact .inl rfl
        · exact .inl rfl
    | notNegative =>
        rw [rule, Rule.notNegative_violations]
        split
        · exact .inr rfl
        · exact .inl rfl
    | oneOf texts =>
        rw [rule, Rule.oneOf_violations]
        split
        · exact .inl rfl
        · exact .inr rfl
  split
  · next h => exact (c.holds_iff v).mp h
  · next h => exact hcases.resolve_left (mt (c.holds_iff v).mpr h)

end Constraint

/-- A constraint for all that stands at a site. -/
structure Demand where
  site : Site
  constraint : Constraint
deriving DecidableEq

namespace Demand

def below (stop : Stop) (d : Demand) : Demand := { d with site := stop :: d.site }

/-- One violation for every part at the site that breaks the constraint. -/
def violations (d : Demand) (v : Value) : List Violation :=
  ((d.site.parts v).filter fun p => ¬ d.constraint.Holds p.value).map fun p =>
    { d.constraint.violation p.value with path := p.path }

theorem violations_nil (c : Constraint) (v : Value) :
    violations ⟨[], c⟩ v = c.rule.violations v := by
  have hroot : { c.violation v with path := [] } = c.violation v := by cases c <;> rfl
  rw [Constraint.violations_rule, violations, Site.parts]
  by_cases h : c.Holds v <;> simp [h, hroot]

theorem map_below (d : Demand) (parts : List Part) (step : Step) :
    ((parts.map (·.below step)).filter fun p => ¬ d.constraint.Holds p.value).map
        (fun p => { d.constraint.violation p.value with path := p.path }) =
      ((parts.filter fun p => ¬ d.constraint.Holds p.value).map fun p =>
        { d.constraint.violation p.value with path := p.path }).map (·.below step) := by
  rw [List.filter_map, List.map_map, List.map_map]
  rfl

theorem violations_below_key (name : String) (d : Demand) (v : Value) :
    (d.below (.key name)).violations v =
      match v.asMapping.get? (.str name) with
      | some part => (d.violations part).map (·.below (.entry (.str name)))
      | none => [] := by
  simp only [violations, below, Site.parts]
  split
  · exact d.map_below ..
  · rfl

theorem violations_below_entry (d : Demand) (v : Value) :
    (d.below .entry).violations v =
      v.asMapping.flatMap fun e => (d.violations e.2).map (·.below (.entry e.1)) := by
  simp only [violations, below, Site.parts, List.filter_flatMap, List.map_flatMap]
  exact congrArg (List.flatMap · v.asMapping) (funext fun e => d.map_below ..)

theorem violations_below_item (d : Demand) (v : Value) :
    (d.below .item).violations v =
      match v with
      | .list items => items.zipIdx.flatMap fun e => (d.violations e.1).map (·.below (.index e.2))
      | _ => [] := by
  simp only [violations, below, Site.parts]
  split
  · rw [List.filter_flatMap, List.map_flatMap]
    exact congrArg (List.flatMap · _) (funext fun e => d.map_below ..)
  · rfl

end Demand

/-! ## The demands of a shape -/

mutual

def Rule.demands : Rule → List Demand
  | .type names => [⟨[], .type names⟩]
  | .minLength size => [⟨[], .minLength size⟩]
  | .notNegative => [⟨[], .notNegative⟩]
  | .oneOf texts => [⟨[], .oneOf texts⟩]
  | .properties fields => fieldDemands fields
  | .entries rules => (rulesDemands rules).map (·.below .entry)
  | .items rules => (rulesDemands rules).map (·.below .item)
  | .allOf shapes => shapesDemands shapes
  | .named _ rules => rulesDemands rules

def rulesDemands : List Rule → List Demand
  | [] => []
  | rule :: rest => rule.demands ++ rulesDemands rest

def fieldDemands : List (String × List Rule) → List Demand
  | [] => []
  | (key, rules) :: rest => (rulesDemands rules).map (·.below (.key key)) ++ fieldDemands rest

def shapesDemands : List (List Rule) → List Demand
  | [] => []
  | rules :: rest => rulesDemands rules ++ shapesDemands rest

end

def Shape.demands (shape : Shape) : List Demand := rulesDemands shape

/-- All violations of some demands, demand after demand. -/
def violationsOf (demands : List Demand) (v : Value) : List Violation :=
  demands.flatMap (·.violations v)

/-! ## Paths without null keys -/

deriving instance DecidableEq for Step

/-- The steps that are reported of a path: a null key is no step. -/
def reportedPath (path : List Step) : List Step := path.filter (· ≠ .entry .null)

theorem reportedPath_eq_self {path : List Step} : reportedPath path = path ↔ .entry .null ∉ path := by
  constructor
  · intro h hmem
    rw [← h] at hmem
    exact of_decide_eq_true (List.mem_filter.mp hmem).2 rfl
  · intro h
    exact List.filter_eq_self.mpr fun step hstep => decide_eq_true fun heq => h (heq ▸ hstep)

/-- The violation under the path that is reported. -/
def Violation.reported (v : Violation) : Violation := { v with path := reportedPath v.path }

theorem Violation.reported_of_not_mem {v : Violation} (h : .entry .null ∉ v.path) :
    v.reported = v := by
  rw [reported, reportedPath_eq_self.mpr h]

theorem map_reported_below {step : Step} (h : step ≠ .entry .null) (vs : List Violation) :
    (vs.map (·.below step)).map Violation.reported =
      (vs.map Violation.reported).map (·.below step) := by
  rw [List.map_map, List.map_map]
  refine List.map_congr_left fun v _ => ?_
  simp [Violation.reported, Violation.below, reportedPath, h]

theorem map_reported_below_entry (key : Scalar) (vs : List Violation) :
    (vs.map (·.below (.entry key))).map Violation.reported =
      (vs.map Violation.reported).map (·.belowEntry key) := by
  by_cases h : key = .null
  · subst h
    rw [List.map_map, List.map_map]
    exact List.map_congr_left fun v _ => rfl
  · rw [map_reported_below (fun hstep => h (Step.entry.inj hstep))]
    exact List.map_congr_left fun v _ => (if_neg h).symm

/-! ## The violations of a shape -/

theorem flatMap_swap {α β γ : Type} (as : List α) (bs : List β) (f : α → β → List γ) :
    (as.flatMap fun a => bs.flatMap (f a)).Perm (bs.flatMap fun b => as.flatMap (f · b)) := by
  induction as with
  | nil => simp
  | cons a rest ih =>
      simp only [List.flatMap_cons]
      exact (List.Perm.append_left _ ih).trans (List.flatMap_append_perm bs _ _)

theorem violationsOf_append (ds ds' : List Demand) (v : Value) :
    violationsOf (ds ++ ds') v = violationsOf ds v ++ violationsOf ds' v := List.flatMap_append

theorem violationsOf_below_key (name : String) (ds : List Demand) (v : Value) :
    violationsOf (ds.map (·.below (.key name))) v =
      match v.asMapping.get? (.str name) with
      | some part => (violationsOf ds part).map (·.below (.entry (.str name)))
      | none => [] := by
  simp only [violationsOf, List.flatMap_map, Demand.violations_below_key]
  cases v.asMapping.get? (.str name) with
  | none => simp
  | some part => simp [List.map_flatMap]

theorem violationsOf_below_entry (ds : List Demand) (v : Value) :
    (violationsOf (ds.map (·.below .entry)) v).Perm
      (v.asMapping.flatMap fun e => (violationsOf ds e.2).map (·.below (.entry e.1))) := by
  simp only [violationsOf, List.flatMap_map, Demand.violations_below_entry, List.map_flatMap]
  exact flatMap_swap ..

theorem violationsOf_below_item (ds : List Demand) (v : Value) :
    (violationsOf (ds.map (·.below .item)) v).Perm
      (match v with
      | .list items => items.zipIdx.flatMap fun e =>
          (violationsOf ds e.1).map (·.below (.index e.2))
      | _ => []) := by
  simp only [violationsOf, List.flatMap_map, Demand.violations_below_item]
  split
  · simp only [List.map_flatMap]
    exact flatMap_swap ..
  · simp

theorem map_reported_violationsOf_leaf (c : Constraint) (v : Value) :
    (violationsOf [⟨[], c⟩] v).map Violation.reported = c.rule.violations v := by
  rw [violationsOf, List.flatMap_cons, List.flatMap_nil, List.append_nil, Demand.violations_nil,
    Constraint.violations_rule]
  split
  · rfl
  · cases c <;> rfl

mutual

theorem Rule.violations_perm : ∀ (rule : Rule) (v : Value),
    (rule.violations v).Perm ((violationsOf rule.demands v).map Violation.reported)
  | .type names, v => by
      rw [Rule.demands, map_reported_violationsOf_leaf (.type names)]
      exact .refl _
  | .minLength size, v => by
      rw [Rule.demands, map_reported_violationsOf_leaf (.minLength size)]
      exact .refl _
  | .notNegative, v => by
      rw [Rule.demands, map_reported_violationsOf_leaf .notNegative]
      exact .refl _
  | .oneOf texts, v => by
      rw [Rule.demands, map_reported_violationsOf_leaf (.oneOf texts)]
      exact .refl _
  | .properties fields, v => by
      rw [Rule.properties_violations, Rule.demands]
      exact fieldViolations_perm fields v
  | .entries rules, v => by
      rw [Rule.entries_violations, Rule.demands]
      refine .trans ?_ ((violationsOf_below_entry (rulesDemands rules) v).map _).symm
      rw [List.map_flatMap]
      refine .flatMap_left _ fun e _ => ?_
      rw [map_reported_below_entry]
      exact (rulesViolations_perm rules e.2).map _
  | .items rules, v => by
      rw [Rule.items_violations, Rule.demands]
      refine .trans ?_ ((violationsOf_below_item (rulesDemands rules) v).map _).symm
      cases v with
      | list items =>
          rw [List.map_flatMap]
          refine .flatMap_left _ fun e _ => ?_
          have hindex : Step.index e.2 ≠ .entry .null := fun h => nomatch h
          rw [map_reported_below hindex]
          exact (rulesViolations_perm rules e.1).map _
      | _ => exact .refl _
  | .allOf shapes, v => by
      rw [Rule.allOf_violations, Rule.demands]
      exact shapesViolations_perm shapes v
  | .named _ rules, v => by
      rw [Rule.named_violations, Rule.demands]
      exact rulesViolations_perm rules v

theorem rulesViolations_perm : ∀ (rules : List Rule) (v : Value),
    (rulesViolations rules v).Perm ((violationsOf (rulesDemands rules) v).map Violation.reported)
  | [], v => by
      rw [rulesDemands]
      exact .refl _
  | rule :: rest, v => by
      rw [rulesViolations_cons, rulesDemands, violationsOf_append, List.map_append]
      exact (Rule.violations_perm rule v).append (rulesViolations_perm rest v)

theorem fieldViolations_perm : ∀ (fields : List (String × List Rule)) (v : Value),
    (fieldViolations fields v.asMapping).Perm
      ((violationsOf (fieldDemands fields) v).map Violation.reported)
  | [], v => by
      rw [fieldDemands]
      exact .refl _
  | (key, rules) :: rest, v => by
      rw [fieldViolations_cons, fieldDemands, violationsOf_append, List.map_append,
        violationsOf_below_key]
      refine List.Perm.append ?_ (fieldViolations_perm rest v)
      cases v.asMapping.get? (.str key) with
      | none => exact .refl _
      | some part =>
          have hkey : Step.entry (.str key) ≠ .entry .null := fun h => nomatch Step.entry.inj h
          rw [map_reported_below hkey]
          exact (rulesViolations_perm rules part).map _

theorem shapesViolations_perm : ∀ (shapes : List (List Rule)) (v : Value),
    (shapesViolations shapes v).Perm
      ((violationsOf (shapesDemands shapes) v).map Violation.reported)
  | [], v => by
      rw [shapesDemands]
      exact .refl _
  | rules :: rest, v => by
      rw [shapesViolations_cons, shapesDemands, violationsOf_append, List.map_append]
      exact (rulesViolations_perm rules v).append (shapesViolations_perm rest v)

end

end ActorSpec
