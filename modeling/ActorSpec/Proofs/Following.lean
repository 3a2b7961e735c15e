import ActorSpec.Proofs.WellFormed

/-!
# Following tokens into a value

A list of tokens leads from a value to a part of it, step by step: by a key in a mapping and by a
decimal index in a list (`Value.follow`). In a value whose mappings have nothing but texts for keys
(`Value.hasTextKeys`) every part is at the end of some tokens, and what a token is used on tells whether
it is a key or an index.
-/

namespace ActorSpec

/-! ## Indices as tokens -/

/-- The number that a token writes in decimal, without zeros in front. -/
def decimal? (token : String) : Option Nat :=
  let n := Nat.ofDigitChars 10 token.toList 0
  if toString n = token then some n else none

@[simp] theorem decimal?_toString (n : Nat) : decimal? (toString n) = some n := by
  have hread : Nat.ofDigitChars 10 (toString n).toList 0 = n := by
    rw [Nat.toString_eq_repr, Nat.toList_repr, Nat.ofDigitChars_ten_toDigits]
  rw [decimal?, hread, if_pos rfl]

theorem toString_of_decimal? {token : String} {n : Nat} (h : decimal? token = some n) :
    toString n = token := by
  simp only [decimal?] at h
  split at h
  · next heq => exact Option.some.inj h ▸ heq
  · cases h

theorem toString_injective {m n : Nat} (h : toString m = toString n) : m = n :=
  Option.some.inj (by rw [← decimal?_toString, h, decimal?_toString])

namespace Value

/-! ## Following -/

/-- The part of a value behind one token. -/
def part? (v : Value) (token : String) : Option Value :=
  match v with
  | .mapping entries => Mapping.get? entries (.str token)
  | .list items | .tuple items => (decimal? token).bind (items[·]?)
  | .scalar _ | .set _ => none

/-- The part of a value at the end of some tokens. -/
def follow : Value → List String → Option Value
  | v, [] => some v
  | v, token :: rest => (v.part? token).bind (follow · rest)

@[simp] theorem follow_nil (v : Value) : v.follow [] = some v := rfl

@[simp] theorem follow_cons (v : Value) (token : String) (rest : List String) :
    v.follow (token :: rest) = (v.part? token).bind (follow · rest) := rfl

/-- What has its parts one by one, under their keys or indices: no set, and no tuple. -/
def isPlain : Value → Bool
  | .scalar _ | .list _ | .mapping _ => true
  | .set _ | .tuple _ => false

/-- No step along the tokens leads into a set or a tuple. -/
def staysPlain : Value → List String → Bool
  | _, [] => true
  | v, token :: rest => v.isPlain && (v.part? token).all (staysPlain · rest)

theorem isPlain_of_staysPlain {v : Value} {token : String} {rest : List String}
    (h : v.staysPlain (token :: rest) = true) : v.isPlain = true := by
  rw [staysPlain, Bool.and_eq_true] at h
  exact h.1

theorem staysPlain_part {v part : Value} {token : String} {rest : List String}
    (h : v.staysPlain (token :: rest) = true) (hpart : v.part? token = some part) :
    part.staysPlain rest = true := by
  rw [staysPlain, Bool.and_eq_true, hpart] at h
  exact h.2

theorem follow_append (v : Value) (tokens rest : List String) :
    v.follow (tokens ++ rest) = (v.follow tokens).bind (·.follow rest) := by
  induction tokens generalizing v with
  | nil => rfl
  | cons token others ih =>
      rw [List.cons_append, follow_cons, follow_cons, Option.bind_assoc]
      exact congrArg _ (funext fun part => ih part)

theorem staysPlain_append (v : Value) (tokens rest : List String) :
    v.staysPlain (tokens ++ rest) =
      (v.staysPlain tokens && (v.follow tokens).all (·.staysPlain rest)) := by
  induction tokens generalizing v with
  | nil => rfl
  | cons token others ih =>
      rw [List.cons_append, staysPlain, staysPlain, follow_cons, Bool.and_assoc]
      cases v.part? token with
      | none => rfl
      | some part => exact congrArg _ (ih part)

/-- An entry that a tolerant reading finds is there. -/
theorem exists_of_get? {v x : Value} {key : Scalar} (h : v.asMapping.get? key = some x) :
    ∃ entries, v = .mapping entries ∧ Mapping.get? entries key = some x := by
  cases v with
  | mapping entries => exact ⟨entries, rfl, h⟩
  | _ => cases h

theorem part?_of_get? {v x : Value} {key : String} (h : v.asMapping.get? (.str key) = some x) :
    v.part? key = some x := by
  obtain ⟨entries, rfl, hget⟩ := exists_of_get? h
  exact hget

/-- Tokens lead to a part, by way of mappings and lists only. -/
def Reaches (v : Value) (tokens : List String) (x : Value) : Prop :=
  v.follow tokens = some x ∧ v.staysPlain tokens = true

theorem Reaches.nil (v : Value) : v.Reaches [] v := ⟨rfl, rfl⟩

theorem Reaches.cons {v part x : Value} {token : String} {rest : List String}
    (hplain : v.isPlain = true) (hpart : v.part? token = some part) (h : part.Reaches rest x) :
    v.Reaches (token :: rest) x := by
  rw [Reaches, follow_cons, staysPlain, hpart, hplain]
  exact h

/-- What leads on from a tolerant reading leads on from the value that is read: nothing leads on from
the null that stands for a missing part. -/
theorem Reaches.field {v x : Value} {key token : String} {rest : List String}
    (h : (v.asMapping.field key).Reaches (token :: rest) x) : v.Reaches (key :: token :: rest) x := by
  cases hget : v.asMapping.get? (.str key) with
  | none =>
      rw [Mapping.field, hget] at h
      cases h.1
  | some part =>
      rw [Mapping.field, hget] at h
      obtain ⟨entries, rfl, hentries⟩ := exists_of_get? hget
      exact .cons rfl hentries h

theorem part?_index {v item : Value} {i : Nat} (h : (item, i) ∈ v.asList.zipIdx) :
    v.part? (toString i) = some item := by
  have hitem : v.asList[i]? = some item := List.mem_zipIdx_iff_getElem?.mp h
  cases v with
  | list items => rwa [part?, decimal?_toString]
  | tuple items => rwa [part?, decimal?_toString]
  | _ => cases hitem

end Value

/-! ## Text keys -/

def Scalar.isText : Scalar → Bool
  | .str _ => true
  | _ => false

theorem Scalar.isText_iff {s : Scalar} : s.isText = true ↔ ∃ text, s = .str text := by
  constructor
  · intro h
    cases s with
    | str text => exact ⟨text, rfl⟩
    | _ => cases h
  · rintro ⟨text, rfl⟩
    rfl

namespace Value

mutual

/-- Every key of every mapping in a value is a text. -/
def hasTextKeys : Value → Bool
  | .scalar _ | .set _ => true
  | .list items => itemsHaveTextKeys items
  | .tuple items => itemsHaveTextKeys items
  | .mapping entries => entriesHaveTextKeys entries

def itemsHaveTextKeys : List Value → Bool
  | [] => true
  | v :: rest => v.hasTextKeys && itemsHaveTextKeys rest

def entriesHaveTextKeys : List (Scalar × Value) → Bool
  | [] => true
  | (key, v) :: rest => key.isText && v.hasTextKeys && entriesHaveTextKeys rest

end

theorem itemsHaveTextKeys_iff {items : List Value} :
    itemsHaveTextKeys items = true ↔ ∀ v ∈ items, v.hasTextKeys = true := by
  induction items with
  | nil => simp [itemsHaveTextKeys]
  | cons v rest ih => simp [itemsHaveTextKeys, ih]

theorem entriesHaveTextKeys_iff {entries : List (Scalar × Value)} :
    entriesHaveTextKeys entries = true ↔
      ∀ e ∈ entries, e.1.isText = true ∧ e.2.hasTextKeys = true := by
  induction entries with
  | nil => simp [entriesHaveTextKeys]
  | cons e rest ih => simp [entriesHaveTextKeys, ih, and_assoc]

theorem hasTextKeys_ofEntries {entries : List (Scalar × Value)}
    (h : ∀ e ∈ entries, e.1.isText = true ∧ e.2.hasTextKeys = true) :
    (Value.mapping (Mapping.ofEntries entries)).hasTextKeys = true := by
  rw [hasTextKeys, entriesHaveTextKeys_iff]
  intro e he
  obtain ⟨e', he', hvalue⟩ := Mapping.mem_ofEntries he
  refine ⟨?_, hvalue ▸ (h e' he').2⟩
  have hcontains : Mapping.contains entries e.1 = true := by
    rw [← Mapping.contains_ofEntries, Mapping.contains_iff]
    exact ⟨e, he, Scalar.same_refl _⟩
  obtain ⟨first, hfirst, hsame⟩ := Mapping.contains_iff.mp hcontains
  obtain ⟨text, htext⟩ := Scalar.isText_iff.mp (h first hfirst).1
  rw [Scalar.same_comm, htext] at hsame
  exact Scalar.isText_iff.mpr ⟨text, Scalar.same_str.mp hsame⟩

theorem hasTextKeys_of_mem_asMapping {v : Value} (h : v.hasTextKeys = true) {e : Scalar × Value}
    (he : e ∈ v.asMapping) : e.1.isText = true ∧ e.2.hasTextKeys = true := by
  cases v with
  | mapping entries =>
      rw [hasTextKeys] at h
      exact entriesHaveTextKeys_iff.mp h e he
  | _ => exact absurd he List.not_mem_nil

theorem hasTextKeys_of_mem_asList {v : Value} (h : v.hasTextKeys = true) {item : Value}
    (hitem : item ∈ v.asList) : item.hasTextKeys = true := by
  cases v with
  | list items =>
      rw [hasTextKeys] at h
      exact itemsHaveTextKeys_iff.mp h item hitem
  | tuple items =>
      rw [hasTextKeys] at h
      exact itemsHaveTextKeys_iff.mp h item hitem
  | _ => exact absurd hitem List.not_mem_nil

theorem hasTextKeys_field {v : Value} (h : v.hasTextKeys = true) (key : String) :
    (v.asMapping.field key).hasTextKeys = true := by
  cases hget : v.asMapping.get? (.str key) with
  | none =>
      rw [Mapping.field, hget]
      rfl
  | some x =>
      rw [Mapping.field, hget]
      obtain ⟨k, hmem, -⟩ := Mapping.mem_of_get? hget
      exact (hasTextKeys_of_mem_asMapping h hmem).2

/-- The key of an entry leads to it: no other key names it, and a text names itself. -/
theorem part?_of_mem {v : Value} (hkeys : v.hasTextKeys = true) (hv : v.WellFormed)
    {e : Scalar × Value} (he : e ∈ v.asMapping) : v.part? e.1.display = some e.2 := by
  obtain ⟨text, htext⟩ := Scalar.isText_iff.mp (hasTextKeys_of_mem_asMapping hkeys he).1
  have hdisplay : e.1.display = text := by rw [htext, Scalar.display]
  rw [hdisplay]
  refine part?_of_get? ?_
  rw [← htext]
  exact Mapping.get?_of_mem hv.asMapping_distinct he

theorem Reaches.entry {v : Value} (hkeys : v.hasTextKeys = true) (hv : v.WellFormed)
    {key : Scalar} {part x : Value} (he : (key, part) ∈ v.asMapping) {rest : List String}
    (h : part.Reaches rest x) : v.Reaches (key.display :: rest) x := by
  have hpart := part?_of_mem hkeys hv he
  cases v with
  | mapping entries => exact .cons rfl hpart h
  | _ => exact absurd he List.not_mem_nil

end Value

end ActorSpec
