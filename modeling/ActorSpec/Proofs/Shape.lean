import ActorSpec.Lint.Issues
import ActorSpec.Proofs.Mapping
import Mathlib.Data.List.Basic

/-!
# Values without violations

`Accepts rules v` says that a value breaks no rule of a shape. One lemma for each kind of rule says
what keeping it means in terms of the value alone, so what the lint demands of a part of a config can
be read off the bundled shapes by rewriting. A config without issues is null or accepted as a whole
(`Lint.accepts_of_issues`).
-/

namespace ActorSpec

/-! ## The equations of the check -/

section

variable (rules : List Rule) (v : Value)

theorem rulesViolations_cons (rule : Rule) :
    rulesViolations (rule :: rules) v = rule.violations v ++ rulesViolations rules v := rfl

theorem fieldViolations_cons (key : String) (rest : List (String × List Rule)) (m : Mapping Value) :
    fieldViolations ((key, rules) :: rest) m =
      (match m.get? (.str key) with
        | some part => (rulesViolations rules part).map (·.below (.entry (.str key)))
        | none => []) ++ fieldViolations rest m := rfl

theorem shapesViolations_cons (rest : List (List Rule)) :
    shapesViolations (rules :: rest) v = rulesViolations rules v ++ shapesViolations rest v := rfl

namespace Rule

theorem type_violations (names : List TypeName) : (Rule.type names).violations v =
    if names.any (·.admits v) then [] else [.notOfType v names] := rfl

theorem minLength_violations (size : Nat) : (Rule.minLength size).violations v =
    match v with
    | .scalar (.str s) => if s.length < size then [.tooShort v size] else []
    | _ => [] := rfl

theorem notNegative_violations :
    Rule.notNegative.violations v = if v.isNegative then [.negative v] else [] := rfl

theorem oneOf_violations (texts : List String) : (Rule.oneOf texts).violations v =
    if v.isOneOf texts then [] else [.notOneOf v texts] := rfl

theorem properties_violations (fields : List (String × List Rule)) :
    (Rule.properties fields).violations v = fieldViolations fields v.asMapping := rfl

theorem entries_violations : (Rule.entries rules).violations v =
    v.asMapping.flatMap fun e => (rulesViolations rules e.2).map (·.belowEntry e.1) := rfl

theorem items_violations : (Rule.items rules).violations v =
    match v with
    | .list parts => parts.zipIdx.flatMap fun e => (rulesViolations rules e.1).map (·.below (.index e.2))
    | _ => [] := rfl

theorem allOf_violations (shapes : List (List Rule)) :
    (Rule.allOf shapes).violations v = shapesViolations shapes v := rfl

theorem named_violations (name : String) :
    (Rule.named name rules).violations v = rulesViolations rules v := rfl

end Rule

end

def Accepts (rules : List Rule) (v : Value) : Prop := rulesViolations rules v = []

/-! ## Kinds of value -/

namespace Value

def IsText (v : Value) : Prop := ∃ s, v = .str s

def IsFlag (v : Value) : Prop := ∃ b, v = .bool b

/-- An integer or a double, a NaN of its own among them, but no boolean. -/
def IsNumber (v : Value) : Prop :=
  (∃ n, v = .int n) ∨ (∃ x, v = .scalar (.float x)) ∨ ∃ line column, v = .scalar (.nan line column)

/-- An integer that is not negative, or a double that is one. -/
def IsCount (v : Value) : Prop :=
  ∃ n : Nat, v = .int n ∨ ∃ x, v = .scalar (.float x) ∧ x.toInt? = some (n : Int)

def IsAny (_ : Value) : Prop := True

def IsListOf (P : Value → Prop) (v : Value) : Prop := ∃ items, v = .list items ∧ ∀ x ∈ items, P x

/-- A mapping all values of which are `P`. -/
def IsTableOf (P : Value → Prop) (v : Value) : Prop := ∃ m, v = .mapping m ∧ ∀ e ∈ m, P e.2

theorem IsListOf.asList {P : Value → Prop} {v : Value} (h : v.IsListOf P) : ∀ x ∈ v.asList, P x := by
  obtain ⟨items, rfl, hitems⟩ := h
  exact hitems

end Value

namespace Mapping

/-- If there is an entry with the key, its value is `P`. -/
def MayHave (m : Mapping Value) (key : String) (P : Value → Prop) : Prop :=
  ∀ v, m.get? (.str key) = some v → P v

variable {m : Mapping Value} {key : String} {P Q : Value → Prop}

theorem MayHave.mono (h : m.MayHave key P) (hPQ : ∀ v, P v → Q v) : m.MayHave key Q :=
  fun v hv => hPQ v (h v hv)

theorem MayHave.declared (h : m.MayHave key P) {v : Value} (hv : m.declared? key = some v) :
    P v ∧ v.truthy = true := by
  obtain ⟨hget, htruthy⟩ := Option.filter_eq_some_iff.mp hv
  exact ⟨h v hget, htruthy⟩

/-- A value that counts as given, or a default in its place. -/
theorem MayHave.getD (h : m.MayHave key P) {d : Value} (hd : P d) :
    P ((m.declared? key).getD d) := by
  cases hv : m.declared? key with
  | none => exact hd
  | some v => exact (h.declared hv).1

theorem MayHave.field (h : m.MayHave key P) (hnull : P .null) : P (m.field key) := by
  rw [Mapping.field]
  cases hv : m.get? (.str key) with
  | none => exact hnull
  | some v => exact h v hv

end Mapping

/-! ## Keeping a rule -/

theorem accepts_nil (v : Value) : Accepts [] v ↔ True := iff_of_true rfl trivial

theorem accepts_cons (rule : Rule) (rest : List Rule) (v : Value) :
    Accepts (rule :: rest) v ↔ rule.violations v = [] ∧ Accepts rest v := by
  rw [Accepts, rulesViolations_cons, List.append_eq_nil_iff]
  rfl

theorem fieldViolations_cons_eq_nil (key : String) (rules : List Rule)
    (rest : List (String × List Rule)) (m : Mapping Value) :
    fieldViolations ((key, rules) :: rest) m = [] ↔
      m.MayHave key (Accepts rules) ∧ fieldViolations rest m = [] := by
  rw [fieldViolations_cons, List.append_eq_nil_iff, Mapping.MayHave]
  refine and_congr_left' ?_
  cases m.get? (.str key) with
  | none => exact iff_of_true rfl fun v hv => nomatch hv
  | some part =>
      rw [List.map_eq_nil_iff]
      exact ⟨fun h v hv => Option.some.inj hv ▸ h, fun h => h part rfl⟩

theorem shapesViolations_eq_nil (shapes : List (List Rule)) (v : Value) :
    shapesViolations shapes v = [] ↔ ∀ rules ∈ shapes, Accepts rules v := by
  induction shapes with
  | nil => exact iff_of_true rfl fun rules h => absurd h List.not_mem_nil
  | cons rules rest ih =>
      rw [shapesViolations_cons, List.append_eq_nil_iff, ih, List.forall_mem_cons]
      rfl

namespace Rule

theorem violations_type (names : List TypeName) (v : Value) :
    (Rule.type names).violations v = [] ↔ ∃ n ∈ names, n.admits v = true := by
  rw [type_violations, ← List.any_eq_true]
  cases names.any (·.admits v) <;> simp

theorem violations_minLength (size : Nat) (v : Value) :
    (Rule.minLength size).violations v = [] ↔ ∀ s, v = .str s → size ≤ s.length := by
  rw [minLength_violations]
  split
  · next s =>
      constructor
      · intro h s' hs
        obtain rfl : s = s' := by simpa using hs
        by_contra hlt
        rw [if_pos (by omega)] at h
        cases h
      · intro h
        exact if_neg (by have := h s rfl; omega)
  · next hno => exact iff_of_true rfl fun s hs => absurd hs (hno s)

theorem violations_notNegative (v : Value) :
    Rule.notNegative.violations v = [] ↔ v.isNegative = false := by
  rw [notNegative_violations]
  cases v.isNegative <;> simp

theorem violations_oneOf (texts : List String) (v : Value) :
    (Rule.oneOf texts).violations v = [] ↔ ∃ s ∈ texts, v = .str s := by
  rw [oneOf_violations]
  constructor
  · intro h
    unfold Value.isOneOf at h
    split at h
    · next s => exact ⟨s, by simpa using h, rfl⟩
    · cases h
  · rintro ⟨s, hs, rfl⟩
    exact if_pos (List.contains_iff_mem.mpr hs)

theorem violations_properties (fields : List (String × List Rule)) (v : Value) :
    (Rule.properties fields).violations v = [] ↔ fieldViolations fields v.asMapping = [] := by
  rw [properties_violations]

theorem violations_entries (rules : List Rule) (v : Value) :
    (Rule.entries rules).violations v = [] ↔ ∀ e ∈ v.asMapping, Accepts rules e.2 := by
  rw [entries_violations, List.flatMap_eq_nil_iff]
  exact forall₂_congr fun e _ => List.map_eq_nil_iff

theorem violations_items (rules : List Rule) (v : Value) :
    (Rule.items rules).violations v = [] ↔
      ∀ parts, v = .list parts → ∀ part ∈ parts, Accepts rules part := by
  rw [items_violations]
  split
  · next parts =>
      rw [List.flatMap_eq_nil_iff]
      constructor
      · intro h parts' heq part hpart
        obtain rfl := Value.list.inj heq
        obtain ⟨i, hi⟩ := List.mem_iff_getElem?.mp hpart
        exact List.map_eq_nil_iff.mp (h (part, i) (List.mem_zipIdx_iff_getElem?.mpr hi))
      · intro h e he
        have hpart : e.1 ∈ parts :=
          List.mem_of_getElem? (List.mem_zipIdx_iff_getElem?.mp he)
        exact List.map_eq_nil_iff.mpr (h parts rfl e.1 hpart)
  · next hno => exact iff_of_true rfl fun parts heq => absurd heq (hno parts)

theorem violations_allOf (shapes : List (List Rule)) (v : Value) :
    (Rule.allOf shapes).violations v = [] ↔ ∀ rules ∈ shapes, Accepts rules v := by
  rw [allOf_violations, shapesViolations_eq_nil]

theorem violations_named (name : String) (rules : List Rule) (v : Value) :
    (Rule.named name rules).violations v = [] ↔ Accepts rules v := by
  rw [named_violations]
  rfl

end Rule

/-! ## Types -/

namespace TypeName

variable {v : Value}

theorem admits_string : TypeName.string.admits v = true ↔ v.IsText := by
  constructor
  · intro h
    cases v with
    | scalar s => cases s with
      | str s => exact ⟨s, rfl⟩
      | _ => cases h
    | _ => cases h
  · rintro ⟨s, rfl⟩
    rfl

theorem admits_boolean : TypeName.boolean.admits v = true ↔ v.IsFlag := by
  constructor
  · intro h
    cases v with
    | scalar s => cases s with
      | bool b => exact ⟨b, rfl⟩
      | _ => cases h
    | _ => cases h
  · rintro ⟨b, rfl⟩
    rfl

theorem admits_number : TypeName.number.admits v = true ↔ v.IsNumber := by
  constructor
  · intro h
    cases v with
    | scalar s => cases s with
      | int n => exact .inl ⟨n, rfl⟩
      | float x => exact .inr (.inl ⟨x, rfl⟩)
      | nan line column => exact .inr (.inr ⟨line, column, rfl⟩)
      | _ => cases h
    | _ => cases h
  · rintro (⟨n, rfl⟩ | ⟨x, rfl⟩ | ⟨line, column, rfl⟩) <;> rfl

theorem admits_integer : TypeName.integer.admits v = true ↔
    (∃ n, v = .int n) ∨ ∃ x i, v = .scalar (.float x) ∧ x.toInt? = some i := by
  constructor
  · intro h
    cases v with
    | scalar s => cases s with
      | int n => exact .inl ⟨n, rfl⟩
      | float x =>
          obtain ⟨i, hi⟩ := Option.isSome_iff_exists.mp h
          exact .inr ⟨x, i, rfl, hi⟩
      | _ => cases h
    | _ => cases h
  · rintro (⟨n, rfl⟩ | ⟨x, i, rfl, hi⟩)
    · rfl
    · exact Option.isSome_iff_exists.mpr ⟨i, hi⟩

theorem admits_array : TypeName.array.admits v = true ↔ ∃ items, v = .list items := by
  constructor
  · intro h
    cases v with
    | scalar s => cases s <;> cases h
    | list items => exact ⟨items, rfl⟩
    | _ => cases h
  · rintro ⟨items, rfl⟩
    rfl

theorem admits_object : TypeName.object.admits v = true ↔ ∃ m, v = .mapping m := by
  constructor
  · intro h
    cases v with
    | scalar s => cases s <;> cases h
    | mapping m => exact ⟨m, rfl⟩
    | _ => cases h
  · rintro ⟨m, rfl⟩
    rfl

theorem admits_null : TypeName.null.admits v = true ↔ v = .null := by
  constructor
  · intro h
    cases v with
    | scalar s => cases s with
      | null => rfl
      | _ => cases h
    | _ => cases h
  · rintro rfl
    rfl

end TypeName

/-- A double that is a whole number and not negative is a natural number. -/
theorem Binary64.toInt?_of_not_isNegative {x : Binary64} {i : Int} (h : x.toInt? = some i)
    (hx : x.isNegative = false) : 0 ≤ i := by
  cases x with
  | nan => cases h
  | infinity s => cases h
  | finite s c =>
      rw [toInt?] at h
      split at h
      · cases s with
        | false =>
            obtain rfl := Option.some.inj h
            exact Int.natCast_nonneg _
        | true =>
            -- Only the negative zero has a sign and is not negative.
            have hzero : c.val = 0 := by simpa [isNegative] using hx
            obtain rfl := Option.some.inj h
            simp [hzero, units]
      · cases h

/-! ## Configs without issues -/

namespace Lint

/-- Sorting the violations by path loses none. -/
theorem accepts_of_issues {config : Value} (h : issues config = []) :
    config = .null ∨ Accepts Bundled.config config := by
  unfold issues issuesOf at h
  split at h
  · exact .inl rfl
  · right
    rw [List.map_eq_nil_iff] at h
    have hperm := List.mergeSort_perm (Shape.violations Bundled.config config)
      fun a b => pathLe (tokens a) (tokens b)
    rw [h] at hperm
    exact List.nil_perm.mp hperm

end Lint

end ActorSpec
