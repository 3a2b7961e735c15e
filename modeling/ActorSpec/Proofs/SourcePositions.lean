import ActorSpec.Proofs.NodePaths
import ActorSpec.Proofs.PathTokens
import ActorSpec.Spec.Location

/-!
# What a source map has under a path

The map is filled from a stack, and what is entered later replaces what is there. So, while the walk is
under way, the entry of a path will be that of the node found from the deepest place of the stack that
leads to one, and only without any the one that is there (`SourceMap.coming`). A step of the walk does not
change this (`coming_step`), hence the finished map has under a path the first node of the text with its
tokens (`SourceMap.find?_ofNode`), and nothing under what is not joined of tokens.
-/

namespace ActorSpec.SourceMap

open Yaml (Node)

/-! ## Entries -/

theorem find?_enter (m : SourceMap) (path : String) (position : Position) (name : String) :
    (m.enter path position).find? name = if name = path then some position else m.find? name :=
  lookup_of_enter (enter · path position) rfl (fun _ _ => rfl) m name

/-! ## Places on the stack -/

/-- A node on the stack, with the tokens of its path. -/
abbrev Place := List String × Node

/-- The stack as the walk has it. -/
def onStack (places : List Place) : List (String × Node) :=
  places.map fun p => (SpecPath.join "" p.1, p.2)

/-- The parts of a node at a place, in the order of the text. -/
def below (p : Place) : List Place := p.2.children.map fun c => (p.1 ++ [c.1], c.2)

/-- The parts of a node have their tokens behind its path. -/
theorem parts_eq_map (path : String) (n : Node) :
    parts path n = n.children.map fun c => (SpecPath.push path c.1, c.2) := by
  cases n with
  | scalar => rfl
  | sequence tag items start =>
      rw [parts, Node.children, List.map_map]
      rfl
  | mapping tag entries start =>
      rw [parts, Node.children, List.map_filterMap]
      refine List.filterMap_congr fun e _ => ?_
      obtain ⟨k, v⟩ := e
      cases k <;> rfl

theorem parts_eq_onStack (p : Place) : parts (SpecPath.join "" p.1) p.2 = onStack (below p) := by
  have hpush : ∀ token : String, SpecPath.push (SpecPath.join "" p.1) token =
      SpecPath.join "" (p.1 ++ [token]) := by
    intro token
    rw [SpecPath.join, SpecPath.join, List.foldl_append]
    rfl
  simp only [parts_eq_map, onStack, below, List.map_map, Function.comp_def, hpush]

/-- The first node that some tokens lead to by way of a place. -/
def locate (tokens : List String) (p : Place) : Option Node :=
  if p.1 <+: tokens then p.2.firstAt? (tokens.drop p.1.length) else none

/-- What is found by way of a place is its own node, or is found by way of a part of it. -/
theorem locate_eq (tokens : List String) (p : Place) :
    locate tokens p =
      ((below p).findSome? (locate tokens)).or (if p.1 = tokens then some p.2 else none) := by
  obtain ⟨start, n⟩ := p
  have hbelow : (below (start, n)).findSome? (locate tokens) =
      n.children.findSome? fun c => locate tokens (start ++ [c.1], c.2) := by
    rw [below, List.findSome?_map]
    rfl
  rw [hbelow]
  by_cases h : start <+: tokens
  · obtain ⟨rest, rfl⟩ := h
    rw [locate, if_pos (List.prefix_append ..), List.drop_left]
    cases rest with
    | nil =>
        have hnone : ∀ c ∈ n.children, locate (start ++ []) (start ++ [c.1], c.2) = none := by
          intro c _
          rw [locate, if_neg fun hlong => by simpa using hlong.length_le]
        rw [List.findSome?_eq_none_iff.mpr hnone, if_pos (List.append_nil start).symm]
        rfl
    | cons token rest =>
        have hpart : ∀ c : String × Node, locate (start ++ token :: rest) (start ++ [c.1], c.2) =
            if c.1 = token then c.2.firstAt? rest else none := by
          intro c
          have hstep : start ++ [c.1] <+: start ++ token :: rest ↔ c.1 = token := by
            rw [List.prefix_append_right_inj, List.cons_prefix_cons]
            exact and_iff_left List.nil_prefix
          by_cases hc : c.1 = token
          · rw [locate, if_pos (hstep.mpr hc), if_pos hc, List.length_append, ← List.drop_drop,
              List.drop_left]
            rfl
          · rw [locate, if_neg (mt hstep.mp hc), if_neg hc]
        have hlong : start ≠ start ++ token :: rest := by simp
        rw [if_neg hlong, Option.or_none, Node.firstAt?_cons]
        simp only [hpart]
  · have hnone : ∀ c ∈ n.children, locate tokens (start ++ [c.1], c.2) = none := by
      intro c _
      rw [locate, if_neg fun hlong => h ((List.prefix_append ..).trans hlong)]
    have hstart : start ≠ tokens := fun heq => h (heq ▸ List.prefix_rfl)
    rw [locate, if_neg h, List.findSome?_eq_none_iff.mpr hnone, if_neg hstart]
    rfl

/-- The position that a path will have when the stack is empty. -/
def coming (tokens : List String) (places : List Place) (m : SourceMap) : Option Position :=
  ((places.reverse.findSome? (locate tokens)).map positionOf).or (m.find? (SpecPath.join "" tokens))

theorem coming_step (tokens : List String) (p : Place) (places : List Place) (m : SourceMap) :
    coming tokens ((below p).reverse ++ places) (m.enter (SpecPath.join "" p.1) (positionOf p.2)) =
      coming tokens (p :: places) m := by
  rw [coming, coming, List.reverse_append, List.reverse_reverse, List.reverse_cons,
    List.findSome?_append, List.findSome?_append, List.findSome?_singleton, locate_eq, find?_enter]
  by_cases h : p.1 = tokens
  · rw [if_pos h, if_pos (congrArg _ h.symm)]
    cases places.reverse.findSome? (locate tokens) <;>
      cases (below p).findSome? (locate tokens) <;> rfl
  · have hpath : SpecPath.join "" tokens ≠ SpecPath.join "" p.1 :=
      fun heq => h (SpecPath.join_injective heq).symm
    rw [if_neg h, if_neg hpath, Option.or_none]

/-! ## The walk -/

/-- How many nodes are still to be entered. -/
def outstanding (places : List Place) : Nat := (places.map (·.2.size)).sum

theorem outstanding_below (p : Place) : outstanding (below p) < p.2.size := by
  have hplaces : outstanding (below p) = (p.2.children.map (·.2.size)).sum := by
    rw [outstanding, below, List.map_map]
    rfl
  rw [hplaces]
  exact p.2.sum_size_children

/-- A step of the walk. -/
theorem walk_cons (fuel : Nat) (p : Place) (rest : List Place) (m : SourceMap) :
    walk (fuel + 1) (onStack (p :: rest)) m =
      walk fuel (onStack ((below p).reverse ++ rest))
        (m.enter (SpecPath.join "" p.1) (positionOf p.2)) := by
  have hstack : (parts (SpecPath.join "" p.1) p.2).reverse ++ onStack rest =
      onStack ((below p).reverse ++ rest) := by
    rw [parts_eq_onStack, onStack, onStack, onStack, List.map_append, List.map_reverse]
  rw [onStack, List.map_cons, walk, ← onStack, hstack]

theorem find?_walk (tokens : List String) (fuel : Nat) (places : List Place) (m : SourceMap)
    (h : outstanding places ≤ fuel) :
    (walk fuel (onStack places) m).find? (SpecPath.join "" tokens) = coming tokens places m := by
  induction fuel generalizing places m with
  | zero =>
      cases places with
      | nil => rfl
      | cons p rest =>
          have := outstanding_below p
          rw [outstanding, List.map_cons, List.sum_cons] at h
          omega
  | succ fuel ih =>
      cases places with
      | nil => rfl
      | cons p rest =>
          rw [walk_cons, ih, coming_step]
          have := outstanding_below p
          simp only [outstanding, List.map_cons, List.sum_cons, List.map_append, List.map_reverse,
            List.sum_append, List.sum_reverse] at h this ⊢
          omega

/-- A map has under a path the first node of the text that its tokens lead to. -/
theorem find?_ofNode (root : Node) (tokens : List String) :
    (ofNode root).find? (SpecPath.join "" tokens) = (root.firstAt? tokens).map positionOf := by
  have hroot : outstanding [(([] : List String), root)] ≤ root.size := by
    rw [outstanding, List.map_singleton, List.sum_singleton]
  have hstart : locate tokens ([], root) = root.firstAt? tokens := by
    rw [locate, if_pos (List.nil_prefix)]
    rfl
  rw [ofNode]
  refine (find?_walk tokens root.size [([], root)] [] hroot).trans ?_
  rw [coming, List.reverse_singleton, List.findSome?_singleton, hstart]
  exact Option.or_none

theorem join_of_find?_walk (fuel : Nat) (places : List Place) (m : SourceMap) {path : String}
    {position : Position} (h : (walk fuel (onStack places) m).find? path = some position) :
    (∃ tokens, path = SpecPath.join "" tokens) ∨ m.find? path = some position := by
  induction fuel generalizing places m with
  | zero => exact .inr h
  | succ fuel ih =>
      cases places with
      | nil => exact .inr h
      | cons p rest =>
          rw [walk_cons] at h
          rcases ih _ _ h with htokens | hm
          · exact .inl htokens
          · rw [find?_enter] at hm
            split at hm
            · next hpath => exact .inl ⟨p.1, hpath⟩
            · exact .inr hm

/-- Every entry of a map is under a path that is joined of tokens. -/
theorem join_of_find?_ofNode {root : Node} {path : String} {position : Position}
    (h : (ofNode root).find? path = some position) : ∃ tokens, path = SpecPath.join "" tokens := by
  rcases join_of_find?_walk root.size [([], root)] [] h with htokens | hnil
  · exact htokens
  · cases hnil

end ActorSpec.SourceMap
