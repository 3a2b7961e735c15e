import ActorSpec.Proofs.Following
import Mathlib.Algebra.Ring.Nat

/-!
# Nodes at the end of tokens

The parts of a node have tokens like the parts of a value: the text of a key, or an index. The data of a
node and its positions disagree about which of several parts with one token is meant. The data takes the
last one, at every step (`Node.origin?`, `Node.follow_value`); the positions take the first one with
anything at the end of the tokens (`Node.firstAt?`). Where no token is repeated on the way there is
nothing to choose (`Node.firstAt?_eq_origin?`). Only where a written-out tag makes a set of a mapping, or
pairs of the mappings in a list, has the data other parts than the text.
-/

namespace ActorSpec.Yaml.Node

/-! ## Parts and their tokens -/

/-- The parts of a node, each with its token, in the order of the text. What has a key that is no scalar
has no token. -/
def children : Node → List (String × Node)
  | .scalar .. => []
  | .sequence _ items _ => items.zipIdx.map fun (n, i) => (toString i, n)
  | .mapping _ entries _ => entries.filterMap fun (k, v) =>
    match k with
    | .scalar _ text _ => some (text, v)
    | _ => none

/-- The parts of a node that have one token. -/
def behind (n : Node) (token : String) : List Node :=
  (n.children.filter (·.1 = token)).map (·.2)

/-! ## The first node and the last -/

/-- The node that is first in the text, of those at the end of some tokens. -/
def firstAt? : Node → List String → Option Node
  | n, [] => some n
  | n, token :: rest => (n.behind token).findSome? (firstAt? · rest)

/-- The node that the value at the end of some tokens is made of. -/
def origin? : Node → List String → Option Node
  | n, [] => some n
  | n, token :: rest => (n.behind token).getLast?.bind (origin? · rest)

/-- No step on the way along some tokens has more than one part to go to. -/
def isUnrepeated : Node → List String → Bool
  | _, [] => true
  | n, token :: rest =>
    match n.behind token with
    | [] => true
    | [part] => isUnrepeated part rest
    | _ => false

theorem mem_children_of_mem_behind {n part : Node} {token : String} (h : part ∈ n.behind token) :
    (token, part) ∈ n.children := by
  obtain ⟨c, hc, rfl⟩ := List.mem_map.mp h
  obtain ⟨hmem, htoken⟩ := List.mem_filter.mp hc
  rw [← of_decide_eq_true htoken]
  exact hmem

/-- The first node is looked for in the order of all parts. -/
theorem firstAt?_cons (n : Node) (token : String) (rest : List String) :
    n.firstAt? (token :: rest) =
      n.children.findSome? fun c => if c.1 = token then c.2.firstAt? rest else none := by
  rw [firstAt?, behind, List.findSome?_map]
  induction n.children with
  | nil => rfl
  | cons c others ih =>
      rw [List.filter_cons, List.findSome?_cons]
      by_cases h : c.1 = token
      · rw [if_pos (decide_eq_true h), if_pos h, List.findSome?_cons, ih]
        rfl
      · rw [if_neg (by simpa using h), if_neg h, ih]

/-- Where the data has a node, the text has a first one. -/
theorem isSome_firstAt? {n : Node} {tokens : List String} (h : (n.origin? tokens).isSome = true) :
    (n.firstAt? tokens).isSome = true := by
  induction tokens generalizing n with
  | nil => rfl
  | cons token rest ih =>
      obtain ⟨node, hnode⟩ := Option.isSome_iff_exists.mp h
      obtain ⟨part, hpart, hrest⟩ := Option.bind_eq_some_iff.mp hnode
      rw [firstAt?, List.findSome?_isSome_iff]
      exact ⟨part, List.mem_of_getLast? hpart, ih (Option.isSome_of_eq_some hrest)⟩

/-- Without repeated tokens on the way the first node is the only one. -/
theorem firstAt?_eq_origin? {n : Node} {tokens : List String} (h : n.isUnrepeated tokens = true) :
    n.firstAt? tokens = n.origin? tokens := by
  induction tokens generalizing n with
  | nil => rfl
  | cons token rest ih =>
      rw [firstAt?, origin?]
      rw [isUnrepeated] at h
      split at h
      · next hnone => rw [hnone]; rfl
      · next part hpart =>
          rw [hpart, List.findSome?_singleton, List.getLast?_singleton, Option.bind_some]
          exact ih h
      · cases h

/-! ## Sizes -/

theorem sizeItems_eq_sum (items : List Node) : sizeItems items = (items.map size).sum := by
  induction items with
  | nil => rw [sizeItems, List.map_nil, List.sum_nil]
  | cons n rest ih => rw [sizeItems, List.map_cons, List.sum_cons, ih]

/-- A node is larger than its parts together. -/
theorem sum_size_children (n : Node) : (n.children.map (·.2.size)).sum < n.size := by
  cases n with
  | scalar tag text start =>
      rw [size]
      exact Nat.zero_lt_one
  | sequence tag items start =>
      have hitems : (children (.sequence tag items start)).map (·.2.size) = items.map size := by
        conv_rhs => rw [← List.zipIdx_map_fst 0 items]
        rw [children, List.map_map, List.map_map]
        rfl
      rw [hitems, size, sizeItems_eq_sum]
      exact Nat.lt_succ_self _
  | mapping tag entries start =>
      rw [size, Nat.lt_succ_iff]
      induction entries with
      | nil => exact Nat.zero_le _
      | cons e rest ih =>
          obtain ⟨k, v⟩ := e
          rw [sizeEntries]
          cases k with
          | scalar keyTag text m =>
              have hparts : children (.mapping tag ((.scalar keyTag text m, v) :: rest) start) =
                  (text, v) :: children (.mapping tag rest start) := rfl
              rw [hparts, List.map_cons, List.sum_cons, Nat.add_assoc]
              exact Nat.le_add_left_of_le (Nat.add_le_add_left ih _)
          | sequence => exact Nat.le_add_left_of_le ih
          | mapping => exact Nat.le_add_left_of_le ih

/-! ## Text keys -/

/-- The tags under which a mapping is read entry by entry. -/
def isKeyed (tag : Tag) : Bool := tag = .map || tag = .set

/-- The key of an entry is a text. The sign for a default value is one where it has no other meaning. -/
def isTextKey (tag : Tag) : Node → Bool
  | .scalar keyTag _ _ => keyTag = .str || (isKeyed tag && keyTag = .value)
  | _ => false

mutual

/-- Every key of every mapping below a node is a text, and none is a merge key. -/
def hasTextKeys : Node → Bool
  | .scalar .. => true
  | .sequence _ items _ => itemsHaveTextKeys items
  | .mapping tag entries _ => entriesHaveTextKeys tag entries

def itemsHaveTextKeys : List Node → Bool
  | [] => true
  | n :: rest => n.hasTextKeys && itemsHaveTextKeys rest

def entriesHaveTextKeys (tag : Tag) : List (Node × Node) → Bool
  | [] => true
  | (k, v) :: rest => k.isTextKey tag && v.hasTextKeys && entriesHaveTextKeys tag rest

end

theorem itemsHaveTextKeys_iff {items : List Node} :
    itemsHaveTextKeys items = true ↔ ∀ n ∈ items, n.hasTextKeys = true := by
  induction items with
  | nil => simp [itemsHaveTextKeys]
  | cons n rest ih => simp [itemsHaveTextKeys, ih]

theorem entriesHaveTextKeys_iff {tag : Tag} {entries : List (Node × Node)} :
    entriesHaveTextKeys tag entries = true ↔
      ∀ e ∈ entries, e.1.isTextKey tag = true ∧ e.2.hasTextKeys = true := by
  induction entries with
  | nil => simp [entriesHaveTextKeys]
  | cons e rest ih => simp [entriesHaveTextKeys, ih, and_assoc]

/-- A text key stands for its own text. -/
theorem isTextKey_iff {tag : Tag} {k : Node} : k.isTextKey tag = true ↔
    ∃ keyTag text start, k = .scalar keyTag text start ∧
      (keyTag = .str ∨ (isKeyed tag = true ∧ keyTag = .value)) := by
  cases k with
  | scalar keyTag text start => simp [isTextKey]
  | _ => simp [isTextKey]

theorem isMerge_of_isTextKey {tag : Tag} {k : Node} (h : k.isTextKey tag = true) :
    k.isMerge = false := by
  obtain ⟨keyTag, text, start, rfl, rfl | ⟨-, rfl⟩⟩ := isTextKey_iff.mp h <;> rfl

/-! ## The data of a node with text keys -/

/-- The entries of a mapping with text keys are its parts under their tokens. -/
theorem ownEntries_eq {tag : Tag} {entries : List (Node × Node)} (start : Mark)
    (h : entriesHaveTextKeys tag entries = true) :
    ownEntries entries =
      (children (.mapping tag entries start)).map fun c => (.str c.1, c.2.value) := by
  induction entries with
  | nil => rw [ownEntries]; rfl
  | cons e rest ih =>
      obtain ⟨k, v⟩ := e
      rw [entriesHaveTextKeys, Bool.and_eq_true, Bool.and_eq_true] at h
      obtain ⟨⟨hkey, -⟩, hrest⟩ := h
      rw [ownEntries, isMerge_of_isTextKey hkey, if_neg Bool.false_ne_true, ih hrest]
      obtain ⟨keyTag, text, m, rfl, rfl | ⟨-, rfl⟩⟩ := isTextKey_iff.mp hkey <;> rfl

theorem mergedEntries_eq_nil {tag : Tag} {entries : List (Node × Node)}
    (h : entriesHaveTextKeys tag entries = true) : mergedEntries entries = [] := by
  induction entries with
  | nil => rw [mergedEntries]
  | cons e rest ih =>
      obtain ⟨k, v⟩ := e
      rw [entriesHaveTextKeys, Bool.and_eq_true, Bool.and_eq_true] at h
      rw [mergedEntries, isMerge_of_isTextKey h.1.1, if_neg Bool.false_ne_true, ih h.2,
        List.nil_append]

theorem itemValues_eq_map (items : List Node) : itemValues items = items.map value := by
  induction items with
  | nil => rw [itemValues, List.map_nil]
  | cons n rest ih => rw [itemValues, List.map_cons, ih]

/-! ## Parts of the data -/

theorem filter_zipIdx (items : List Node) (s k : Nat) :
    ((items.zipIdx s).filter (·.2 = s + k)).map (·.1) = items[k]?.toList := by
  induction items generalizing s k with
  | nil => rfl
  | cons n rest ih =>
      rw [List.zipIdx_cons, List.filter_cons]
      cases k with
      | zero =>
          have hlater : (rest.zipIdx (s + 1)).filter (·.2 = s + 0) = [] := by
            refine List.filter_eq_nil_iff.mpr fun e he => ?_
            have := List.le_snd_of_mem_zipIdx he
            simp only [decide_eq_true_eq]
            omega
          rw [if_pos (by simp), hlater]
          rfl
      | succ k =>
          rw [if_neg (by simp), List.getElem?_cons_succ, ← ih (s + 1) k]
          simp only [Nat.add_assoc, Nat.add_comm 1 k]

/-- An index is the token of one item only. -/
theorem behind_sequence (tag : Tag) (items : List Node) (start : Mark) (token : String) :
    (sequence tag items start).behind token = ((decimal? token).bind (items[·]?)).toList := by
  have hbehind : (sequence tag items start).behind token =
      (items.zipIdx.filter fun e => toString e.2 = token).map (·.1) := by
    rw [behind, children, List.filter_map, List.map_map]
    rfl
  rw [hbehind]
  cases hk : decimal? token with
  | none =>
      rw [List.filter_eq_nil_iff.mpr, List.map_nil, Option.bind_none, Option.toList_none]
      intro e _ htoken
      rw [← of_decide_eq_true htoken, decimal?_toString] at hk
      cases hk
  | some k =>
      rw [Option.bind_some, ← filter_zipIdx items 0 k, Nat.zero_add]
      refine congrArg _ (List.filter_congr fun e _ => decide_eq_decide.mpr ?_)
      rw [← toString_of_decimal? hk]
      exact ⟨toString_injective, congrArg toString⟩

/-- The token of an entry finds the last one that has it. -/
theorem get?_parts (parts : List (String × Node)) (token : String) :
    Mapping.get? (parts.map fun c => (Scalar.str c.1, c.2.value)).reverse (.str token) =
      ((parts.filter (·.1 = token)).map (·.2)).getLast?.map value := by
  have hfields : (parts.map fun c => (Scalar.str c.1, c.2.value)) =
      Mapping.ofFieldList (parts.map fun c => (c.1, c.2.value)) := by
    rw [Mapping.ofFieldList, List.map_map]
    rfl
  rw [hfields, Mapping.get?_reverse_ofFieldList, List.filter_map, List.getLast?_map,
    List.getLast?_map, Option.map_map, Option.map_map]
  rfl

/-- Without a sign for a default value no mapping is a scalar. -/
theorem defaultText?_eq_none {tag : Tag} {entries : List (Node × Node)}
    (h : entriesHaveTextKeys tag entries = true) (htag : isKeyed tag ≠ true) :
    scalarText?.defaultText? entries = none := by
  induction entries with
  | nil => rw [scalarText?.defaultText?]
  | cons e rest ih =>
      obtain ⟨k, v⟩ := e
      rw [entriesHaveTextKeys, Bool.and_eq_true, Bool.and_eq_true] at h
      obtain ⟨keyTag, text, start, rfl, rfl | ⟨hkeyed, -⟩⟩ := isTextKey_iff.mp h.1.1
      · rw [scalarText?.defaultText?, if_neg (by simp [Node.tag]), ih h.2]
      · exact absurd hkeyed htag

variable {n : Node} {level : Nat}

/-- What a tag makes no list, mapping or set of, and has no text either, is at fault. -/
theorem misfit_ne_nil (tag : Tag) (h : n.scalarText? = none) : misfit level tag n ≠ [] := by
  have hscalar : n.asScalar tag = .error .malformed := by
    unfold asScalar
    split
    · next htext => cases h.symm.trans htext
    · next text _ htext => cases h.symm.trans htext
    · rfl
  rw [misfit, hscalar]
  split <;> exact List.cons_ne_nil _ _

/-- A scalar, a list or a mapping: the parts of its data are its own. -/
def isPlain : Node → Bool
  | .scalar .. => true
  | .sequence tag .. => tag = .seq
  | .mapping tag .. => tag = .map

/-- What has text keys and data at all, and is not plain, is a list of pairs or a set. -/
theorem cases_of_faultsFrom (hkeys : n.hasTextKeys = true) (h : n.faultsFrom level = []) :
    n.isPlain = true
    ∨ (∃ tag items start, n = .sequence tag items start ∧ tag ≠ .seq ∧ isPairing tag = true
        ∧ pairFaults (level + 1) items = [])
    ∨ ∃ entries start, n = .mapping .set entries start := by
  cases n with
  | scalar tag text start => exact .inl rfl
  | sequence tag items start =>
      rw [faultsFrom] at h
      split at h
      · next htag => exact .inl (decide_eq_true htag)
      · next htag =>
          split at h
          · next hpairing => exact .inr (.inl ⟨tag, items, start, rfl, htag, hpairing, h⟩)
          · exact absurd h (misfit_ne_nil tag rfl)
  | mapping tag entries start =>
      rw [hasTextKeys] at hkeys
      by_cases htag : isKeyed tag = true
      · rw [isKeyed, Bool.or_eq_true, decide_eq_true_iff, decide_eq_true_iff] at htag
        rcases htag with rfl | rfl
        · exact .inl rfl
        · exact .inr (.inr ⟨entries, start, rfl⟩)
      · have hnone : scalarText? (.mapping tag entries start) = none := by
          rw [scalarText?, defaultText?_eq_none hkeys htag]
        rw [faultsFrom, if_neg (by simpa [isKeyed] using htag)] at h
        exact absurd h (misfit_ne_nil tag hnone)

/-- A step into the data of a plain node is the step to the node behind it. -/
theorem part?_value (hplain : n.isPlain = true) (hkeys : n.hasTextKeys = true) (token : String) :
    n.value.part? token = (n.behind token).getLast?.map value := by
  cases n with
  | scalar tag text start =>
      rw [value]
      rfl
  | sequence tag items start =>
      obtain rfl := of_decide_eq_true hplain
      rw [value, if_pos rfl, Value.part?, behind_sequence, itemValues_eq_map]
      cases hk : decimal? token with
      | none => rfl
      | some k =>
          rw [Option.bind_some, Option.bind_some, List.getElem?_map]
          cases items[k]? <;> rfl
  | mapping tag entries start =>
      obtain rfl := of_decide_eq_true hplain
      rw [hasTextKeys] at hkeys
      rw [value, if_pos rfl, Value.part?, mergedEntries_eq_nil hkeys, List.nil_append,
        Mapping.get?_ofEntries, ownEntries_eq start hkeys, get?_parts]
      rfl

theorem pairValues_eq_map (items : List Node) : pairValues items = items.map pairValue := by
  induction items with
  | nil => rw [pairValues, List.map_nil]
  | cons n rest ih => rw [pairValues, List.map_cons, ih]

/-- A step into a list of pairs is the step to the node that the pair is written as. -/
theorem part?_value_pairs {tag : Tag} (htag : tag ≠ .seq) (hpairing : isPairing tag = true)
    (items : List Node) (start : Mark) (token : String) :
    (value (.sequence tag items start)).part? token =
      ((sequence tag items start).behind token).getLast?.map pairValue := by
  rw [value, if_neg htag, if_pos hpairing, Value.part?, behind_sequence, pairValues_eq_map]
  cases hk : decimal? token with
  | none => rfl
  | some k =>
      rw [Option.bind_some, Option.bind_some, List.getElem?_map]
      cases items[k]? <;> rfl

mutual

/-- The data of a node has no other keys than its text. -/
theorem hasTextKeys_value : ∀ n : Node, n.hasTextKeys = true → n.value.hasTextKeys = true
  | .scalar .., _ => by rw [value, Value.hasTextKeys]
  | .sequence tag items m, h => by
      rw [hasTextKeys] at h
      rw [value]
      split_ifs
      · rw [Value.hasTextKeys]
        exact hasTextKeys_itemValues items h
      · rw [Value.hasTextKeys]
        exact hasTextKeys_pairValues items h
      · rw [Value.hasTextKeys]
  | .mapping tag entries m, h => by
      rw [hasTextKeys] at h
      rw [value, mergedEntries_eq_nil h, List.nil_append]
      split_ifs
      · exact Value.hasTextKeys_ofEntries (hasTextKeys_ownEntries entries h)
      · rw [Value.hasTextKeys]
      · rw [Value.hasTextKeys]

theorem hasTextKeys_itemValues : ∀ items : List Node, itemsHaveTextKeys items = true →
    Value.itemsHaveTextKeys (itemValues items) = true
  | [], _ => by rw [itemValues, Value.itemsHaveTextKeys]
  | n :: rest, h => by
      rw [itemsHaveTextKeys, Bool.and_eq_true] at h
      rw [itemValues, Value.itemsHaveTextKeys, hasTextKeys_value n h.1,
        hasTextKeys_itemValues rest h.2]
      rfl

theorem hasTextKeys_pairValues : ∀ items : List Node, itemsHaveTextKeys items = true →
    Value.itemsHaveTextKeys (pairValues items) = true
  | [], _ => by rw [pairValues, Value.itemsHaveTextKeys]
  | n :: rest, h => by
      rw [itemsHaveTextKeys, Bool.and_eq_true] at h
      rw [pairValues, Value.itemsHaveTextKeys, hasTextKeys_pairValue n h.1,
        hasTextKeys_pairValues rest h.2]
      rfl

theorem hasTextKeys_pairValue : ∀ n : Node, n.hasTextKeys = true → n.pairValue.hasTextKeys = true
  | .mapping _ [(k, v)] _, h => by
      rw [hasTextKeys, entriesHaveTextKeys, Bool.and_eq_true, Bool.and_eq_true] at h
      obtain ⟨keyTag, text, m, rfl, -⟩ := isTextKey_iff.mp h.1.1
      rw [pairValue, Value.hasTextKeys]
      simp only [Value.itemsHaveTextKeys, hasTextKeys_value v h.1.2, value, Value.hasTextKeys,
        Bool.and_self]
  | .scalar .., _ | .sequence .., _ | .mapping _ [] _, _ | .mapping _ (_ :: _ :: _) _, _ => by
      rw [pairValue]
      · rw [Value.hasTextKeys]
      all_goals nofun

theorem hasTextKeys_ownEntries {tag : Tag} : ∀ entries : List (Node × Node),
    entriesHaveTextKeys tag entries = true →
      ∀ e ∈ ownEntries entries, e.1.isText = true ∧ e.2.hasTextKeys = true
  | [], _, e, he => by
      rw [ownEntries] at he
      exact absurd he List.not_mem_nil
  | (k, v) :: rest, h, e, he => by
      rw [entriesHaveTextKeys, Bool.and_eq_true, Bool.and_eq_true] at h
      rw [ownEntries, isMerge_of_isTextKey h.1.1, if_neg Bool.false_ne_true] at he
      rcases List.mem_cons.mp he with rfl | hrest
      · refine ⟨?_, hasTextKeys_value v h.1.2⟩
        obtain ⟨keyTag, text, m, rfl, rfl | ⟨-, rfl⟩⟩ := isTextKey_iff.mp h.1.1 <;> rfl
      · exact hasTextKeys_ownEntries rest h.2 e hrest

end

/-! ## Following into the data -/

theorem itemFaults_eq_nil {items : List Node} (h : itemFaults level items = []) :
    ∀ item ∈ items, item.faultsFrom level = [] := by
  induction items with
  | nil => exact fun _ hitem => absurd hitem List.not_mem_nil
  | cons first rest ih =>
      rw [itemFaults, List.append_eq_nil_iff] at h
      exact List.forall_mem_cons.mpr ⟨h.1, ih h.2⟩

theorem ownFaults_eq_nil {tag : Tag} {entries : List (Node × Node)}
    (hkeys : entriesHaveTextKeys tag entries = true) (h : ownFaults level entries = []) :
    ∀ e ∈ entries, e.2.faultsFrom level = [] := by
  induction entries with
  | nil => exact fun _ he => absurd he List.not_mem_nil
  | cons e rest ih =>
      obtain ⟨k, v⟩ := e
      rw [entriesHaveTextKeys, Bool.and_eq_true, Bool.and_eq_true] at hkeys
      rw [ownFaults, isMerge_of_isTextKey hkeys.1.1, if_neg Bool.false_ne_true,
        List.append_eq_nil_iff, List.append_eq_nil_iff] at h
      exact List.forall_mem_cons.mpr ⟨h.1.2, ih hkeys.2 h.2⟩

/-- The parts of a plain node with text keys and data have text keys and data. -/
theorem sound_of_mem_behind (hplain : n.isPlain = true) (hkeys : n.hasTextKeys = true)
    (h : n.faultsFrom level = []) {token : String} {part : Node} (hpart : part ∈ n.behind token) :
    part.hasTextKeys = true ∧ part.faultsFrom (level + 1) = [] := by
  have hmem := mem_children_of_mem_behind hpart
  cases n with
  | scalar tag text start => exact absurd hmem List.not_mem_nil
  | sequence tag items start =>
      obtain rfl := of_decide_eq_true hplain
      rw [hasTextKeys] at hkeys
      rw [faultsFrom, if_pos rfl] at h
      obtain ⟨e, he, heq⟩ := List.mem_map.mp hmem
      obtain ⟨-, rfl⟩ := Prod.mk.inj heq
      have hitem : e.1 ∈ items := List.fst_mem_of_mem_zipIdx he
      exact ⟨itemsHaveTextKeys_iff.mp hkeys _ hitem, itemFaults_eq_nil h _ hitem⟩
  | mapping tag entries start =>
      obtain rfl := of_decide_eq_true hplain
      rw [hasTextKeys] at hkeys
      have hentry : ∃ k, (k, part) ∈ entries := by
        obtain ⟨e, he, heq⟩ := List.mem_filterMap.mp hmem
        obtain ⟨k, v⟩ := e
        cases k with
        | scalar =>
            obtain ⟨-, rfl⟩ := Prod.mk.inj (Option.some.inj heq)
            exact ⟨_, he⟩
        | _ => cases heq
      obtain ⟨k, hk⟩ := hentry
      rw [faultsFrom, if_pos (.inl rfl)] at h
      split at h
      · rw [List.append_eq_nil_iff] at h
        exact ⟨(entriesHaveTextKeys_iff.mp hkeys _ hk).2, ownFaults_eq_nil hkeys h.2 _ hk⟩
      · cases h

/-- A value is the data of a node, or the pair of the only entry that the node has. -/
inductive Gives : Node → Value → Prop where
  | data (n : Node) : Gives n n.value
  | pair (tag : Tag) (k v : Node) (start : Mark) :
      Gives (.mapping tag [(k, v)] start) (.tuple [k.value, v.value])

theorem exists_of_pairFaults {items : List Node} (h : pairFaults level items = []) {item : Node}
    (hitem : item ∈ items) : ∃ tag k v start, item = .mapping tag [(k, v)] start := by
  induction items with
  | nil => exact absurd hitem List.not_mem_nil
  | cons first rest ih =>
      rw [pairFaults, List.append_eq_nil_iff] at h
      rcases List.mem_cons.mp hitem with rfl | hrest
      · unfold pairFault at h
        split at h
        · next tag k v start => exact ⟨tag, k, v, start, rfl⟩
        · cases h.1
      · exact ih h.2 hrest

/-- A step into data that is neither a set nor a tuple is a step to the last node with the token. It
gives the data of a node that is sound like the one before, or a pair of a list. -/
theorem part?_cases (hkeys : n.hasTextKeys = true) (h : n.faultsFrom level = [])
    (hplain : n.value.isPlain = true) (token : String) :
    (n.value.part? token = (n.behind token).getLast?.map value
      ∧ ∀ part ∈ n.behind token, part.hasTextKeys = true ∧ part.faultsFrom (level + 1) = [])
    ∨ (∃ items, n.value = .list items)
      ∧ n.value.part? token = (n.behind token).getLast?.map pairValue
      ∧ ∀ part ∈ n.behind token, ∃ tag k v start, part = .mapping tag [(k, v)] start := by
  rcases cases_of_faultsFrom hkeys h with
    hnode | ⟨tag, items, start, rfl, htag, hpairing, hpairs⟩ | ⟨entries, start, rfl⟩
  · exact .inl ⟨part?_value hnode hkeys token, fun part => sound_of_mem_behind hnode hkeys h⟩
  · refine .inr ⟨⟨_, by rw [value, if_neg htag, if_pos hpairing]⟩,
      part?_value_pairs htag hpairing items start token, fun part hpart => ?_⟩
    obtain ⟨e, he, heq⟩ := List.mem_map.mp (mem_children_of_mem_behind hpart)
    obtain ⟨-, rfl⟩ := Prod.mk.inj heq
    exact exists_of_pairFaults hpairs (List.fst_mem_of_mem_zipIdx he)
  · rw [value, if_neg (by decide), if_pos rfl] at hplain
    cases hplain

/-- The value at the end of some tokens is made of the last of the nodes that have them, at every
step. The data holds pairs and sets where the text has mappings: the tokens do not lead into those. -/
theorem follow_value (hkeys : n.hasTextKeys = true) (h : n.faultsFrom level = [])
    {tokens : List String} (hplain : n.value.staysPlain tokens = true) :
    Option.Rel Gives (n.origin? tokens) (n.value.follow tokens) := by
  induction tokens generalizing n level with
  | nil => exact .some (.data n)
  | cons token rest ih =>
      rw [Value.follow_cons, origin?]
      have hroot := Value.isPlain_of_staysPlain hplain
      rcases part?_cases hkeys h hroot token with ⟨hstep, hsound⟩ | ⟨-, hstep, hpairs⟩
      · cases hpart : (n.behind token).getLast? with
        | none =>
            rw [hpart] at hstep
            rw [hstep]
            exact .none
        | some part =>
            rw [hpart, Option.map_some] at hstep
            obtain ⟨hpartKeys, hpartFaults⟩ := hsound part (List.mem_of_getLast? hpart)
            rw [hstep]
            exact ih hpartKeys hpartFaults (Value.staysPlain_part hplain hstep)
      · cases hpart : (n.behind token).getLast? with
        | none =>
            rw [hpart] at hstep
            rw [hstep]
            exact .none
        | some part =>
            obtain ⟨tag, k, v, start, rfl⟩ := hpairs part (List.mem_of_getLast? hpart)
            rw [hpart, Option.map_some, pairValue] at hstep
            rw [hstep]
            -- Nothing leads on from a pair.
            cases rest with
            | nil => exact .some (.pair tag k v start)
            | cons next others =>
                cases Value.isPlain_of_staysPlain (Value.staysPlain_part hplain hstep)

theorem value_ne_tuple (n : Node) (items : List Value) : n.value ≠ .tuple items := by
  cases n with
  | scalar => rw [value]; exact nofun
  | sequence => rw [value]; split_ifs <;> exact nofun
  | mapping => rw [value]; split_ifs <;> exact nofun

/-- Only a list has tuples among its parts. -/
theorem entry_ne_tuple (hkeys : n.hasTextKeys = true) (h : n.faultsFrom level = [])
    {tokens : List String} (hplain : n.value.staysPlain tokens = true) {m : Mapping Value}
    (hm : n.value.follow tokens = some (.mapping m)) {key : String} {x : Value}
    (hx : m.get? (.str key) = some x) (items : List Value) : x ≠ .tuple items := by
  induction tokens generalizing n level with
  | nil =>
      have hvalue : n.value = .mapping m := Option.some.inj hm
      have hroot : n.value.isPlain = true := by rw [hvalue]; rfl
      rcases part?_cases hkeys h hroot key with ⟨hstep, -⟩ | ⟨⟨list, hlist⟩, -⟩
      · rw [hvalue, Value.part?, hx] at hstep
        obtain ⟨part, -, rfl⟩ := Option.map_eq_some_iff.mp hstep.symm
        exact part.value_ne_tuple items
      · cases hvalue.symm.trans hlist
  | cons token rest ih =>
      have hroot := Value.isPlain_of_staysPlain hplain
      rw [Value.follow_cons] at hm
      obtain ⟨y, hy, hrest⟩ := Option.bind_eq_some_iff.mp hm
      have hpart := Value.staysPlain_part hplain hy
      rcases part?_cases hkeys h hroot token with ⟨hstep, hsound⟩ | ⟨-, hstep, hpairs⟩
      · rw [hy] at hstep
        obtain ⟨part, hlast, rfl⟩ := Option.map_eq_some_iff.mp hstep.symm
        obtain ⟨hpartKeys, hpartFaults⟩ := hsound part (List.mem_of_getLast? hlast)
        exact ih hpartKeys hpartFaults hpart hrest
      · rw [hy] at hstep
        obtain ⟨part, hlast, rfl⟩ := Option.map_eq_some_iff.mp hstep.symm
        obtain ⟨tag, k, v, start, rfl⟩ := hpairs part (List.mem_of_getLast? hlast)
        rw [pairValue] at hrest hpart
        cases rest with
        | nil => cases hrest
        | cons next others => cases Value.isPlain_of_staysPlain hpart

theorem faults_of_data {root : Node} {v : Value} (h : root.data = .ok v) :
    root.faults = [] ∧ root.value = v := by
  rw [data, firstFault?] at h
  split at h
  · next hnone =>
      split at hnone
      · next hfaults => exact ⟨hfaults, Except.ok.inj h⟩
      · cases hnone
  · cases h

end ActorSpec.Yaml.Node
