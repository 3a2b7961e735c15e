import ActorSpec.Config
import ActorSpec.Proofs.Mapping
import ActorSpec.Spec.Content

/-!
# Well-formed values

A value is well formed when no mapping in it, however deep, has two keys that name one entry, and no
set two members that are the same. The type of values does not ask for it, but whatever is read from the
text of a spec has it (`wellFormed_of_contentOf`): a repeated key and a merge key replace the value of the
entry that is there. Statements that count the entries of a config take it as their hypothesis.
-/

namespace ActorSpec

inductive Value.WellFormed : Value → Prop where
  | scalar (s : Scalar) : WellFormed (.scalar s)
  | list {items : List Value} (h : ∀ v ∈ items, WellFormed v) : WellFormed (.list items)
  | tuple {items : List Value} (h : ∀ v ∈ items, WellFormed v) : WellFormed (.tuple items)
  | set {members : List Scalar} (hd : members.Pairwise fun a b => a.same b = false) :
      WellFormed (.set members)
  | mapping {entries : List (Scalar × Value)} (hd : Mapping.Distinct entries)
      (h : ∀ e ∈ entries, WellFormed e.2) : WellFormed (.mapping entries)

/-! ## Deciding it -/

namespace Value

mutual

def isWellFormed : Value → Bool
  | .scalar _ => true
  | .list items => areWellFormed items
  | .tuple items => areWellFormed items
  | .set members => decide (members.Pairwise fun a b => a.same b = false)
  | .mapping entries => decide (Mapping.Distinct entries) && entriesAreWellFormed entries

def areWellFormed : List Value → Bool
  | [] => true
  | v :: rest => v.isWellFormed && areWellFormed rest

def entriesAreWellFormed : List (Scalar × Value) → Bool
  | [] => true
  | (_, v) :: rest => v.isWellFormed && entriesAreWellFormed rest

end

mutual

theorem wellFormed_of_isWellFormed : ∀ v : Value, v.isWellFormed = true → v.WellFormed
  | .scalar s, _ => .scalar s
  | .list items, h => .list (forall_of_areWellFormed items (by rwa [isWellFormed] at h))
  | .tuple items, h => .tuple (forall_of_areWellFormed items (by rwa [isWellFormed] at h))
  | .set members, h => by
      rw [isWellFormed, decide_eq_true_iff] at h
      exact .set h
  | .mapping entries, h => by
      rw [isWellFormed, Bool.and_eq_true, decide_eq_true_iff] at h
      exact .mapping h.1 (forall_of_entriesAreWellFormed entries h.2)

theorem forall_of_areWellFormed :
    ∀ items : List Value, areWellFormed items = true → ∀ v ∈ items, v.WellFormed
  | [], _, _, hx => absurd hx List.not_mem_nil
  | v :: rest, h, x, hx => by
      rw [areWellFormed, Bool.and_eq_true] at h
      rcases List.mem_cons.mp hx with heq | hrest
      · exact heq ▸ wellFormed_of_isWellFormed v h.1
      · exact forall_of_areWellFormed rest h.2 x hrest

theorem forall_of_entriesAreWellFormed : ∀ entries : List (Scalar × Value),
    entriesAreWellFormed entries = true → ∀ e ∈ entries, e.2.WellFormed
  | [], _, _, hx => absurd hx List.not_mem_nil
  | (_, v) :: rest, h, x, hx => by
      rw [entriesAreWellFormed, Bool.and_eq_true] at h
      rcases List.mem_cons.mp hx with heq | hrest
      · exact heq ▸ wellFormed_of_isWellFormed v h.1
      · exact forall_of_entriesAreWellFormed rest h.2 x hrest

end

end Value

/-! ## Parts of a well-formed value -/

namespace Value

theorem WellFormed.asMapping_distinct {v : Value} (h : v.WellFormed) : v.asMapping.Distinct := by
  cases h with
  | mapping hd _ => exact hd
  | _ => exact Mapping.distinct_nil

theorem WellFormed.of_mem_asMapping {v : Value} (h : v.WellFormed) {e : Scalar × Value}
    (he : e ∈ v.asMapping) : e.2.WellFormed := by
  cases h with
  | mapping _ hparts => exact hparts e he
  | _ => exact absurd he List.not_mem_nil

theorem WellFormed.of_mem_asList {v : Value} (h : v.WellFormed) {item : Value}
    (hitem : item ∈ v.asList) : item.WellFormed := by
  cases h with
  | list hparts => exact hparts item hitem
  | tuple hparts => exact hparts item hitem
  | _ => exact absurd hitem List.not_mem_nil

theorem WellFormed.field {v : Value} (h : v.WellFormed) (key : String) :
    (v.asMapping.field key).WellFormed := by
  cases hg : v.asMapping.get? (.str key) with
  | none =>
      rw [Mapping.field, hg]
      exact .scalar .null
  | some x =>
      rw [Mapping.field, hg]
      obtain ⟨k, hmem, -⟩ := Mapping.mem_of_get? hg
      exact h.of_mem_asMapping hmem

end Value

namespace Config

variable {config : Value}

theorem wellFormed_dataset_field (h : config.WellFormed) (key : String) :
    ((dataset config).field key).WellFormed := (h.field "dataset").field key

theorem baseFields_distinct (h : config.WellFormed) : (baseFields config).Distinct :=
  (wellFormed_dataset_field h "fields").asMapping_distinct.mapValues _

theorem group_distinct (h : config.WellFormed) {g : Scalar × Value} (hg : g ∈ fieldGroups config) :
    (declarationsOf g.2).Distinct :=
  ((wellFormed_dataset_field h "field_groups").of_mem_asMapping hg).asMapping_distinct.mapValues _

end Config

/-! ## The data of a document -/

/-- What succeeds in steps succeeds in each of them. -/
theorem exists_of_bind_eq_ok {ε α β : Type} {x : Except ε α} {f : α → Except ε β} {b : β}
    (h : x >>= f = .ok b) : ∃ a, x = .ok a ∧ f a = .ok b := by
  cases x with
  | error e => cases h
  | ok a => exact ⟨a, rfl, h⟩

theorem exists_of_map_eq_ok {ε α β : Type} {x : Except ε α} {f : α → β} {b : β}
    (h : x.map f = .ok b) : ∃ a, x = .ok a ∧ f a = b := by
  cases x with
  | error e => cases h
  | ok a => exact ⟨a, rfl, Except.ok.inj h⟩

theorem error_of_map_eq_error {ε α β : Type} {x : Except ε α} {f : α → β} {fault : ε}
    (h : x.map f = .error fault) : x = .error fault := by
  cases x with
  | error e => exact congrArg _ (Except.error.inj h)
  | ok a => cases h

theorem ok_of_mapError_eq_ok {ε δ α : Type} {x : Except ε α} {fault : ε → δ} {a : α}
    (h : x.mapError fault = .ok a) : x = .ok a := by
  cases x with
  | error e => cases h
  | ok b => exact congrArg _ (Except.ok.inj h)

namespace Yaml.Node

mutual

theorem value_wellFormed : ∀ n : Node, n.value.WellFormed
  | .scalar .. => by
      rw [value]
      exact .scalar _
  | .sequence tag items m => by
      rw [value]
      split
      · exact .list (itemValues_wellFormed items)
      · split
        · exact .list (pairValues_wellFormed items)
        · exact .scalar _
  | .mapping tag entries m => by
      rw [value]
      split
      · refine .mapping (Mapping.distinct_ofEntries _) fun e he => ?_
        obtain ⟨e', he', heq⟩ := Mapping.mem_ofEntries he
        rw [← heq]
        rcases List.mem_append.mp he' with hm | ho
        · exact mergedEntries_wellFormed entries e' hm
        · exact ownEntries_wellFormed entries e' ho
      · split
        · exact .set (Mapping.distinct_ofEntries _)
        · exact .scalar _

theorem itemValues_wellFormed : ∀ items : List Node, ∀ v ∈ itemValues items, v.WellFormed
  | [], v, h => by
      rw [itemValues] at h
      exact absurd h List.not_mem_nil
  | n :: rest, v, h => by
      rw [itemValues] at h
      rcases List.mem_cons.mp h with rfl | hrest
      · exact value_wellFormed n
      · exact itemValues_wellFormed rest v hrest

theorem pairValues_wellFormed : ∀ items : List Node, ∀ v ∈ pairValues items, v.WellFormed
  | [], v, h => by
      rw [pairValues] at h
      exact absurd h List.not_mem_nil
  | n :: rest, v, h => by
      rw [pairValues] at h
      rcases List.mem_cons.mp h with rfl | hrest
      · exact pairValue_wellFormed n
      · exact pairValues_wellFormed rest v hrest

theorem pairValue_wellFormed : ∀ n : Node, n.pairValue.WellFormed
  | .mapping _ [(k, v)] _ => by
      rw [pairValue]
      refine .tuple fun x hx => ?_
      rcases List.mem_cons.mp hx with rfl | hx
      · exact value_wellFormed k
      · exact List.mem_singleton.mp hx ▸ value_wellFormed v
  | .scalar .. | .sequence .. | .mapping _ [] _ | .mapping _ (_ :: _ :: _) _ => by
      rw [pairValue]
      · exact .scalar _
      all_goals nofun

theorem ownEntries_wellFormed :
    ∀ entries : List (Node × Node), ∀ e ∈ ownEntries entries, e.2.WellFormed
  | [], e, h => by
      rw [ownEntries] at h
      exact absurd h List.not_mem_nil
  | (k, v) :: rest, e, h => by
      rw [ownEntries] at h
      split at h
      · exact ownEntries_wellFormed rest e h
      · rcases List.mem_cons.mp h with rfl | hrest
        · exact value_wellFormed v
        · exact ownEntries_wellFormed rest e hrest

theorem mergedEntries_wellFormed :
    ∀ entries : List (Node × Node), ∀ e ∈ mergedEntries entries, e.2.WellFormed
  | [], e, h => by
      rw [mergedEntries] at h
      exact absurd h List.not_mem_nil
  | (k, v) :: rest, e, h => by
      rw [mergedEntries] at h
      rcases List.mem_append.mp h with hk | hrest
      · split at hk
        · exact mergeSource_wellFormed v e hk
        · exact absurd hk List.not_mem_nil
      · exact mergedEntries_wellFormed rest e hrest

theorem mergeSource_wellFormed : ∀ n : Node, ∀ e ∈ n.mergeSource, e.2.WellFormed
  | .scalar .., e, h => by
      rw [mergeSource] at h
      exact absurd h List.not_mem_nil
  | .sequence _ items _, e, h => by
      rw [mergeSource] at h
      exact mergeSources_wellFormed items e h
  | .mapping _ entries _, e, h => by
      rw [mergeSource] at h
      rcases List.mem_append.mp h with hm | ho
      · exact mergedEntries_wellFormed entries e hm
      · exact ownEntries_wellFormed entries e ho

theorem mergeSources_wellFormed : ∀ items : List Node, ∀ e ∈ mergeSources items, e.2.WellFormed
  | [], e, h => by
      rw [mergeSources] at h
      exact absurd h List.not_mem_nil
  | n :: rest, e, h => by
      rw [mergeSources] at h
      rcases List.mem_append.mp h with hrest | hn
      · exact mergeSources_wellFormed rest e hrest
      · exact mergeSource_wellFormed n e hn

end

theorem wellFormed_of_data {n : Node} {v : Value} (h : n.data = .ok v) : v.WellFormed := by
  rw [data] at h
  split at h
  · exact Except.ok.inj h ▸ value_wellFormed n
  · cases h

end Yaml.Node

namespace Spec

theorem wellFormed_of_dataOf {text : String} {v : Value} (h : dataOf text = .ok v) :
    v.WellFormed := by
  unfold dataOf at h
  cases hn : Yaml.Node.ofText text with
  | error fault =>
      rw [hn] at h
      cases h
  | ok root? =>
      rw [hn] at h
      cases root? with
      | none => exact Except.ok.inj h ▸ .scalar .null
      | some root => exact Yaml.Node.wellFormed_of_data h

/-- The content of every spec is well formed, and with it each of its sections. -/
theorem wellFormed_of_contentOf {text origin : String} {content : Mapping Value}
    (h : contentOf text origin = .ok content) : (Value.mapping content).WellFormed := by
  unfold contentOf at h
  split at h
  · next entries hd => exact Except.ok.inj h ▸ wellFormed_of_dataOf hd
  · exact Except.ok.inj h ▸ .mapping Mapping.distinct_nil fun _ he => absurd he List.not_mem_nil
  all_goals cases h

end Spec

end ActorSpec
