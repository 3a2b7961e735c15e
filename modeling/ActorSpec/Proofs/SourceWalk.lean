import ActorSpec.Proofs.SourcePositions
import ActorSpec.Proofs.TextFaults

/-!
# The walk and the tree that it unfolds

The loop that fills a source map takes one node after another from a stack (`SourceMap.WalkEnds`). It
ends on every stack, since a node is larger than its parts together, and ends with the map that `walk`
computes (`SourceMap.walkEnds_iff`). That map is told by recursion over the tree: every node that scalar
keys and indices lead to has its place in the order of the text (`Node.places`), and a path has the
position of the first place that it is the path of (`SourceMap.find?_ofNode_places`). A node that aliases
share has as many places as there are ways to it.
-/

namespace ActorSpec.Yaml.Node

/-! ## The unfolded tree -/

/-- The places of a tree under one more token. -/
def under (token : String) (places : List (List String × Node)) : List (List String × Node) :=
  places.map fun p => (token :: p.1, p.2)

mutual

/-- The nodes that tokens lead to, each with its tokens, in the order of the text: a node, and then what
is below it. What has a key that is no scalar is left out, with all that is below it. -/
def places : Node → List (List String × Node)
  | .scalar tag text start => [([], .scalar tag text start)]
  | .sequence tag items start => ([], .sequence tag items start) :: itemPlaces 0 items
  | .mapping tag entries start => ([], .mapping tag entries start) :: entryPlaces entries

def itemPlaces : Nat → List Node → List (List String × Node)
  | _, [] => []
  | i, n :: rest => under (toString i) n.places ++ itemPlaces (i + 1) rest

def entryPlaces : List (Node × Node) → List (List String × Node)
  | [] => []
  | (k, v) :: rest =>
    (match k with
      | .scalar _ text _ => under text v.places
      | _ => []) ++ entryPlaces rest

end

theorem itemPlaces_eq (i : Nat) (items : List Node) :
    itemPlaces i items = (items.zipIdx i).flatMap fun e => under (toString e.2) e.1.places := by
  induction items generalizing i with
  | nil => rw [itemPlaces]; rfl
  | cons n rest ih => rw [itemPlaces, ih, List.zipIdx_cons, List.flatMap_cons]

/-- Below a node are the places of its parts, under their tokens. -/
theorem places_eq (n : Node) :
    n.places = ([], n) :: n.children.flatMap fun c => under c.1 c.2.places := by
  cases n with
  | scalar tag text start => rw [places]; rfl
  | sequence tag items start =>
      rw [places, itemPlaces_eq, children, List.flatMap_map]
  | mapping tag entries start =>
      rw [places, children]
      congr 1
      induction entries with
      | nil => rw [entryPlaces]; rfl
      | cons e rest ih =>
          obtain ⟨k, v⟩ := e
          cases k with
          | scalar keyTag text m => rw [entryPlaces, ih]; rfl
          | sequence | mapping =>
              rw [entryPlaces, ih, List.nil_append]
              · rfl
              · rintro _ _ _ ⟨⟩

theorem find?_under (token : String) (places : List (List String × Node)) (head : String)
    (rest : List String) :
    ((under token places).find? (·.1 = head :: rest)).map (·.2) =
      if token = head then (places.find? (·.1 = rest)).map (·.2) else none := by
  rw [under, List.find?_map, Option.map_map]
  by_cases h : token = head
  · subst h
    rw [if_pos rfl]
    simp only [Function.comp_def, List.cons.injEq, true_and]
  · rw [if_neg h, List.find?_eq_none.mpr, Option.map_none]
    intro p _
    simp [h]

/-- The first place with some tokens is that of the first node that they lead to. -/
theorem firstAt?_eq_find? (n : Node) (tokens : List String) :
    n.firstAt? tokens = (n.places.find? (·.1 = tokens)).map (·.2) := by
  induction tokens generalizing n with
  | nil =>
      rw [places_eq, List.find?_cons_of_pos (by simp)]
      rfl
  | cons token rest ih =>
      rw [places_eq, List.find?_cons_of_neg (by simp), List.find?_flatMap, List.map_findSome?,
        firstAt?_cons]
      refine congrArg (List.findSome? · n.children) (funext fun c => ?_)
      rw [Function.comp_apply, find?_under, ih]

/-- A node that tokens lead to is reached by way of another one for every token. -/
theorem isSome_firstAt?_of_append {n : Node} {tokens : List String} {token : String}
    (h : (n.firstAt? (tokens ++ [token])).isSome = true) : (n.firstAt? tokens).isSome = true := by
  induction tokens generalizing n with
  | nil => rfl
  | cons first rest ih =>
      rw [List.cons_append, firstAt?, List.findSome?_isSome_iff] at h
      obtain ⟨part, hpart, hfound⟩ := h
      rw [firstAt?, List.findSome?_isSome_iff]
      exact ⟨part, hpart, ih hfound⟩

end ActorSpec.Yaml.Node

namespace ActorSpec.SourceMap

open Yaml (Node)

/-! ## The loop -/

/-- The loop ends with a map: as long as there are nodes on the stack, the topmost is entered and its
parts take its place, the last one on top. -/
inductive WalkEnds : List (String × Node) → SourceMap → SourceMap → Prop where
  | done (m : SourceMap) : WalkEnds [] m m
  | step {path : String} {n : Node} {pending : List (String × Node)} {m result : SourceMap}
      (h : WalkEnds ((parts path n).reverse ++ pending) (m.enter path (positionOf n)) result) :
      WalkEnds ((path, n) :: pending) m result

/-- How many nodes are at most to be entered. -/
def stackSize (stack : List (String × Node)) : Nat := (stack.map (·.2.size)).sum

/-- Entering a node makes the stack smaller. -/
theorem stackSize_step (top : String × Node) (pending : List (String × Node)) :
    stackSize ((parts top.1 top.2).reverse ++ pending) < stackSize (top :: pending) := by
  have hparts : ((parts top.1 top.2).map (·.2.size)).sum < top.2.size := by
    rw [parts_eq_map, List.map_map]
    exact top.2.sum_size_children
  rw [stackSize, stackSize, List.map_append, List.map_reverse, List.sum_append, List.sum_reverse,
    List.map_cons, List.sum_cons]
  exact Nat.add_lt_add_right hparts _

theorem walkEnds_walk {fuel : Nat} {stack : List (String × Node)} (m : SourceMap)
    (h : stackSize stack ≤ fuel) : WalkEnds stack m (walk fuel stack m) := by
  induction fuel generalizing stack m with
  | zero =>
      cases stack with
      | nil => exact .done m
      | cons top pending =>
          have := stackSize_step top pending
          omega
  | succ fuel ih =>
      cases stack with
      | nil => exact .done m
      | cons top pending =>
          have := stackSize_step top pending
          exact .step (ih _ (by omega))

theorem WalkEnds.unique {stack : List (String × Node)} {m result other : SourceMap}
    (h : WalkEnds stack m result) (h' : WalkEnds stack m other) : result = other := by
  induction h with
  | done m => cases h'; rfl
  | step _ ih =>
      cases h' with
      | step hother => exact ih hother

/-- The loop ends, with the map of the tree and no other one. -/
theorem walkEnds_iff (root : Node) (m : SourceMap) :
    WalkEnds [("", root)] [] m ↔ m = ofNode root := by
  have hroot : stackSize [("", root)] ≤ root.size := by
    rw [stackSize, List.map_singleton, List.sum_singleton]
  have hends : WalkEnds [("", root)] [] (ofNode root) := walkEnds_walk [] hroot
  constructor
  · exact fun h => h.unique hends
  · rintro rfl
    exact hends

/-! ## The map -/

theorem keys_enter (m : SourceMap) (path : String) (position : Position) :
    (m.enter path position).map (·.1) =
      if path ∈ m.map (·.1) then m.map (·.1) else m.map (·.1) ++ [path] := by
  induction m with
  | nil => rfl
  | cons e rest ih =>
      rw [enter]
      by_cases h : e.1 = path
      · rw [if_pos h, List.map_cons, List.map_cons, h, if_pos (List.mem_cons_self ..)]
      · rw [if_neg h, List.map_cons, List.map_cons, ih]
        by_cases hrest : path ∈ rest.map (·.1)
        · rw [if_pos hrest, if_pos (List.mem_cons_of_mem _ hrest)]
        · rw [if_neg hrest, if_neg (by simpa using ⟨Ne.symm h, by simpa using hrest⟩)]
          rfl

theorem WalkEnds.nodup {stack : List (String × Node)} {m result : SourceMap}
    (h : WalkEnds stack m result) (hm : (m.map (·.1)).Nodup) : (result.map (·.1)).Nodup := by
  induction h with
  | done m => exact hm
  | step _ ih =>
      refine ih ?_
      rw [keys_enter]
      split
      · exact hm
      · next hnew => exact List.concat_eq_append ▸ hm.concat hnew

/-- A path has the position of the first place that it is the path of. -/
theorem find?_ofNode_places (root : Node) (path : String) :
    (ofNode root).find? path =
      (root.places.find? fun p => SpecPath.join "" p.1 = path).map fun p => positionOf p.2 := by
  by_cases h : ∃ tokens, path = SpecPath.join "" tokens
  · obtain ⟨tokens, rfl⟩ := h
    have hpath : ∀ p : Place, (SpecPath.join "" p.1 = SpecPath.join "" tokens) = (p.1 = tokens) :=
      fun p => propext ⟨SpecPath.join_injective, congrArg _⟩
    rw [find?_ofNode, Node.firstAt?_eq_find?, Option.map_map]
    simp only [hpath]
    rfl
  · have hnone : (ofNode root).find? path = none :=
      Option.eq_none_iff_forall_ne_some.mpr fun position hfound => h (join_of_find?_ofNode hfound)
    rw [hnone, List.find?_eq_none.mpr, Option.map_none]
    intro p _ hp
    exact h ⟨p.1, (of_decide_eq_true hp).symm⟩

/-- Every path of a map but the empty one is a step below another one. -/
theorem exists_parent {root : Node} {path : String} (h : ((ofNode root).find? path).isSome = true)
    (hpath : path ≠ "") : ∃ parent token, path = SpecPath.push parent token
      ∧ ((ofNode root).find? parent).isSome = true := by
  obtain ⟨position, hfound⟩ := Option.isSome_iff_exists.mp h
  obtain ⟨tokens, rfl⟩ := join_of_find?_ofNode hfound
  obtain rfl | ⟨parent, token, rfl⟩ := tokens.eq_nil_or_concat'
  · exact absurd rfl hpath
  · refine ⟨SpecPath.join "" parent, token, List.foldl_concat .., ?_⟩
    rw [find?_ofNode, Option.isSome_map] at h ⊢
    exact Node.isSome_firstAt?_of_append h

/-! ## The map of a text -/

theorem ofText_eq_ok_iff {text : String} {m : SourceMap} : ofText text = .ok m ↔
    (∃ root, Node.ofText text = .ok (some root) ∧ m = ofNode root)
      ∨ (Node.ofText text = .ok none ∨ Node.ofText text = .error .malformed) ∧ m = [] := by
  rw [ofText]
  cases Node.ofText text with
  | ok root? => cases root? <;> simp [eq_comm]
  | error fault => cases fault <;> simp [eq_comm]

/-- What is not caught is an escape for a character that does not exist, or a version that is too
long. -/
theorem ofText_eq_error_iff {text : String} {fault : Yaml.Fault} (hacyclic : Yaml.IsAcyclic text) :
    ofText text = .error fault ↔ Node.ofText text = .error fault
      ∧ ((∃ code, 0x110000 ≤ code ∧ fault = .character code)
        ∨ ∃ digits, Numeral.maxDigits < digits ∧ fault = .longInteger digits) := by
  have hreads := Yaml.reads_ofText text
  rw [ofText]
  cases htree : Node.ofText text with
  | ok root? => cases root? <;> simp
  | error first =>
      cases hreads first htree with
      | malformed =>
          constructor
          · intro h
            cases h
          · rintro ⟨hfirst, ⟨code, -, rfl⟩ | ⟨digits, -, rfl⟩⟩ <;> cases hfirst
      | character hcode =>
          refine ⟨fun h => ?_, fun h => congrArg _ (Except.error.inj h.1)⟩
          obtain rfl := Except.error.inj h
          exact ⟨rfl, .inl ⟨_, hcode, rfl⟩⟩
      | longVersion hlong =>
          refine ⟨fun h => ?_, fun h => congrArg _ (Except.error.inj h.1)⟩
          obtain rfl := Except.error.inj h
          exact ⟨rfl, .inr ⟨_, hlong, rfl⟩⟩
      | endless => exact absurd htree hacyclic

/-- On the nodes of every tree the loop ends, with one map. It has no path twice, and under every path
the first place of the text with that path, whose position is where its node starts; the root is under
the empty path, and every other path is a step below one that is there too. The map of a text is that of
its tree, and empty for a text without one or one that is not well-formed. No other text without a cycle
lacks a map but those with an escape for a character that does not exist or with a version that is too
long. The loop computes what `walk` does, because a stack gets smaller with every node (`walkEnds_iff`).
-/
theorem walk_enters_first_places (root : Node) (text : String) :
    (∀ m, WalkEnds [("", root)] [] m ↔ m = ofNode root)
    ∧ ((ofNode root).map (·.1)).Nodup
    ∧ (∀ path, (ofNode root).find? path =
        (root.places.find? fun p => SpecPath.join "" p.1 = path).map fun p => positionOf p.2)
    ∧ (ofNode root).find? "" = some (positionOf root)
    ∧ (∀ path, ((ofNode root).find? path).isSome = true → path ≠ "" →
        ∃ parent token, path = SpecPath.push parent token
          ∧ ((ofNode root).find? parent).isSome = true)
    ∧ (Yaml.IsAcyclic text →
        (∀ m, ofText text = .ok m ↔
          (∃ tree, Node.ofText text = .ok (some tree) ∧ m = ofNode tree)
          ∨ (Node.ofText text = .ok none ∨ Node.ofText text = .error .malformed) ∧ m = [])
        ∧ ∀ fault, ofText text = .error fault ↔
          Node.ofText text = .error fault
          ∧ ((∃ code, 0x110000 ≤ code ∧ fault = .character code)
            ∨ ∃ digits, Numeral.maxDigits < digits ∧ fault = .longInteger digits)) := by
  refine ⟨walkEnds_iff root, ?_, find?_ofNode_places root, find?_ofNode root [], ?_,
    fun hacyclic => ⟨fun m => ofText_eq_ok_iff, fun fault => ofText_eq_error_iff hacyclic⟩⟩
  · exact ((walkEnds_iff root _).mpr rfl).nodup List.nodup_nil
  · exact fun path hfound hpath => exists_parent hfound hpath

/-- A list that is shared by two entries, one of which is written again, and an entry with a list for its
key. -/
def sharedList : String := "a: &x [1, \x7bb: 2\x7d]\nc: *x\n? [k]\n: \x7bd: 3\x7d\na: 4\n"

theorem sharedList_walked :
    ∃ root m, Node.ofText sharedList = .ok (some root) ∧ ofText sharedList = .ok m
      ∧ WalkEnds [("", root)] [] m
      ∧ (root.places.map fun p => SpecPath.join "" p.1) =
          ["", "/a", "/a/0", "/a/1", "/a/1/b", "/c", "/c/0", "/c/1", "/c/1/b", "/a"]
      ∧ m.find? "/a" = some ⟨some 1, some 4⟩
      ∧ m.find? "/c/1/b" = some ⟨some 1, some 15⟩
      ∧ ∃ parent token, "/c/1/b" = SpecPath.push parent token
          ∧ (m.find? parent).isSome = true := by
  have hread : (Node.ofText sharedList).toOption.join.any (fun root =>
      (root.places.map fun p => SpecPath.join "" p.1) =
          ["", "/a", "/a/0", "/a/1", "/a/1/b", "/c", "/c/0", "/c/1", "/c/1/b", "/a"]
        ∧ (ofNode root).find? "/a" = some ⟨some 1, some 4⟩
        ∧ (ofNode root).find? "/c/1/b" = some ⟨some 1, some 15⟩) = true := by
    decide +kernel
  obtain ⟨root, hroot, hfound⟩ := (Option.any_eq_true ..).mp hread
  obtain ⟨hplaces, ha, hb⟩ := of_decide_eq_true hfound
  have htree : Node.ofText sharedList = .ok (some root) := by
    cases h : Node.ofText sharedList with
    | error fault => rw [h] at hroot; cases hroot
    | ok root? => rw [h] at hroot; exact congrArg _ hroot
  have hacyclic : Yaml.IsAcyclic sharedList := fun heq => nomatch htree.symm.trans heq
  obtain ⟨hends, -, -, -, hparent, htext⟩ := walk_enters_first_places root sharedList
  exact ⟨root, ofNode root, htree, ((htext hacyclic).1 _).mpr (.inl ⟨root, htree, rfl⟩), (hends _).mpr rfl,
    hplaces, ha, hb, hparent _ (Option.isSome_of_eq_some hb) (by decide)⟩

/-- An escape for a character behind the last one. -/
def farCharacter : String := "\"\\U00110000\""

/-- A text that is not read at all does not always have the empty map. -/
theorem farCharacter_unmapped :
    Node.ofText farCharacter = .error (.character 0x110000)
      ∧ ofText farCharacter = .error (.character 0x110000) := by
  have hread : (Node.ofText farCharacter).map (fun _ => ()) = .error (.character 0x110000) := by
    decide
  have htree := error_of_map_eq_error hread
  have hacyclic : Yaml.IsAcyclic farCharacter := fun heq => nomatch htree.symm.trans heq
  exact ⟨htree, (ofText_eq_error_iff hacyclic).mpr ⟨htree, .inl ⟨_, Nat.le_refl _, rfl⟩⟩⟩

end ActorSpec.SourceMap
