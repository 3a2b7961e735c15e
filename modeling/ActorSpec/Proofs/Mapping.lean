import Mathlib.Data.List.Basic
import ActorSpec.Value.Basic

/-!
# Mappings as tables

What the operations on mappings do to lookup (`get?`, `contains`) and to the order of the keys. Being
the same key is having the same identity, so it is an equivalence. It is not equality: a key has several
spellings, as a whole number and as a double or a truth value. So the laws for entries that are replaced
say which spelling stays.

`Distinct` is the invariant of a mapping: no two of its keys name one entry. Every operation keeps it.
-/

namespace ActorSpec

/-! ## Keys -/

namespace Scalar

theorem same_iff {a b : Scalar} : a.same b = true ↔ a.identity = b.identity := decide_eq_true_iff

@[simp] theorem same_refl (a : Scalar) : a.same a = true := same_iff.mpr rfl

theorem same_comm (a b : Scalar) : a.same b = b.same a := by
  rw [Bool.eq_iff_iff, same_iff, same_iff]
  exact eq_comm

theorem same_trans {a b c : Scalar} (hab : a.same b = true) (hbc : b.same c = true) :
    a.same c = true :=
  same_iff.mpr ((same_iff.mp hab).trans (same_iff.mp hbc))

/-- Two spellings of one key are the same as the same other keys. -/
theorem same_congr {a b : Scalar} (h : a.same b = true) (c : Scalar) : c.same a = c.same b := by
  rw [Bool.eq_iff_iff]
  exact ⟨fun ha => same_trans ha h, fun hb => same_trans hb (same_comm a b ▸ h)⟩

/-- A text is spelled in one way. -/
theorem same_str {a : Scalar} {key : String} : a.same (.str key) = true ↔ a = .str key := by
  refine ⟨fun h => ?_, fun h => h ▸ same_refl _⟩
  have hidentity : a.identity = .text key := same_iff.mp h
  cases a with
  | str s => exact congrArg Scalar.str (Identity.text.inj hidentity)
  | float x =>
      rw [identity] at hidentity
      cases hx : x.toInt? <;> rw [hx] at hidentity <;> cases hidentity
  | datetime t =>
      rw [identity] at hidentity
      cases ht : t.instant? <;> rw [ht] at hidentity <;> cases hidentity
  | _ => cases hidentity

end Scalar

/-! ## Association lists -/

theorem lookup_cons_eq_ite {α β : Type} [BEq α] [LawfulBEq α] [DecidableEq α]
    (e : α × β) (l : List (α × β)) (a : α) :
    (e :: l).lookup a = if a = e.1 then some e.2 else l.lookup a := by
  rw [List.lookup_cons]
  by_cases h : a = e.1
  · rw [if_pos h, beq_iff_eq.mpr h]
  · rw [if_neg h, beq_false_of_ne h]

/-- What is entered under a key, in place of what is there or else at the end, is found under this key
alone. -/
theorem lookup_of_enter {α β : Type} [BEq α] [LawfulBEq α] [DecidableEq α]
    (enter : List (α × β) → List (α × β)) {a : α} {b : β} (hnil : enter [] = [(a, b)])
    (hcons : ∀ e rest, enter (e :: rest) = if e.1 = a then (a, b) :: rest else e :: enter rest)
    (l : List (α × β)) (other : α) :
    (enter l).lookup other = if other = a then some b else l.lookup other := by
  induction l with
  | nil => rw [hnil, lookup_cons_eq_ite]
  | cons e rest ih =>
      rw [hcons]
      by_cases he : e.1 = a
      · rw [if_pos he, lookup_cons_eq_ite, lookup_cons_eq_ite, he]
        split <;> rfl
      · rw [if_neg he, lookup_cons_eq_ite, lookup_cons_eq_ite, ih]
        by_cases h : other = e.1
        · rw [if_pos h, if_pos h, if_neg (h ▸ he)]
        · rw [if_neg h, if_neg h]

namespace Mapping

variable {α β : Type} {m : Mapping α} {key name : Scalar} {value : α}

/-! ## Lookup -/

@[simp] theorem get?_nil (name : Scalar) : get? ([] : Mapping α) name = none := rfl

theorem get?_cons (e : Scalar × α) (m : Mapping α) (name : Scalar) :
    get? (e :: m) name = if e.1.same name then some e.2 else get? m name := by
  simp only [get?, List.find?_cons]
  cases e.1.same name <;> rfl

@[simp] theorem contains_nil (name : Scalar) : contains ([] : Mapping α) name = false := rfl

@[simp] theorem contains_cons (e : Scalar × α) (m : Mapping α) (name : Scalar) :
    contains (e :: m) name = (e.1.same name || contains m name) := rfl

@[simp] theorem contains_append (m m' : Mapping α) (name : Scalar) :
    contains (m ++ m') name = (contains m name || contains m' name) := List.any_append

@[simp] theorem isSome_get? (m : Mapping α) (name : Scalar) :
    (m.get? name).isSome = m.contains name := by
  induction m with
  | nil => rfl
  | cons e rest ih =>
      rw [get?_cons, contains_cons, ← ih]
      cases e.1.same name <;> rfl

theorem get?_eq_none (h : m.contains name = false) : m.get? name = none := by
  rw [← Option.not_isSome_iff_eq_none, isSome_get?, h]
  exact Bool.false_ne_true

theorem contains_eq_any_keys (m : Mapping α) (name : Scalar) :
    m.contains name = m.keys.any (·.same name) := by
  rw [keys, List.any_map]
  rfl

theorem contains_iff : m.contains name = true ↔ ∃ e ∈ m, e.1.same name = true := List.any_eq_true

theorem get?_append (m m' : Mapping α) (name : Scalar) :
    get? (m ++ m') name = (m.get? name).or (m'.get? name) := by
  simp only [get?, List.find?_append]
  cases m.find? (·.1.same name) <;> rfl

theorem contains_congr {n n' : Scalar} (h : n.same n' = true) (m : Mapping α) :
    m.contains n = m.contains n' := by
  simp only [contains, Scalar.same_congr h]

/-- What is looked up is the value of an entry that the key names. -/
theorem mem_of_get? (h : m.get? name = some value) : ∃ k, (k, value) ∈ m ∧ k.same name = true := by
  obtain ⟨e, he, rfl⟩ := Option.map_eq_some_iff.mp h
  exact ⟨e.1, List.mem_of_find?_eq_some he,
    List.find?_some (p := fun e : Scalar × α => e.1.same name) he⟩

/-- A mapping with text keys is looked up like the list that it is made of. -/
theorem get?_ofFields (fields : List (String × Value)) (key : String) :
    (Value.ofFields fields).asMapping.get? (.str key) = fields.lookup key := by
  rw [Value.ofFields, Value.asMapping]
  induction fields with
  | nil => rfl
  | cons f rest ih =>
      rw [List.map_cons, get?_cons, ih, List.lookup_cons]
      by_cases h : key = f.1
      · subst h
        simp
      · have hs : Scalar.same (.str f.1) (.str key) = false :=
          Bool.eq_false_iff.mpr fun hs => h (Scalar.str.inj (Scalar.same_str.mp hs)).symm
        rw [hs, beq_false_of_ne h]
        rfl

/-- Looked up from the end, a key finds the last entry that it names. -/
theorem get?_reverse (m : Mapping α) (name : Scalar) :
    get? m.reverse name = ((m.filter (·.1.same name)).getLast?).map (·.2) := by
  rw [get?, List.getLast?_eq_head?_reverse, ← List.filter_reverse, List.head?_filter]

/-! ## Text keys -/

/-- Entries with texts for keys. -/
def ofFieldList (entries : List (String × α)) : List (Scalar × α) :=
  entries.map fun e => (.str e.1, e.2)

theorem contains_ofFieldList (entries : List (String × α)) (name : String) :
    contains (ofFieldList entries) (.str name) = true ↔ name ∈ entries.map (·.1) := by
  rw [contains_iff, ofFieldList, List.mem_map]
  constructor
  · rintro ⟨e, he, hsame⟩
    obtain ⟨e', he', rfl⟩ := List.mem_map.mp he
    exact ⟨e', he', Scalar.str.inj (Scalar.same_str.mp hsame)⟩
  · rintro ⟨e, he, rfl⟩
    exact ⟨_, List.mem_map_of_mem he, Scalar.same_str.mpr rfl⟩

/-- Looked up from the end, a text finds the last entry that has it. -/
theorem get?_reverse_ofFieldList (entries : List (String × α)) (name : String) :
    get? (ofFieldList entries).reverse (.str name) =
      (entries.filter (·.1 = name)).getLast?.map (·.2) := by
  have hsame : ∀ text : String, Scalar.same (.str text) (.str name) = decide (text = name) := by
    intro text
    rw [Bool.eq_iff_iff, Scalar.same_str, decide_eq_true_iff]
    exact ⟨Scalar.str.inj, congrArg Scalar.str⟩
  rw [get?_reverse, ofFieldList, List.filter_map, List.getLast?_map]
  simp only [Option.map_map, Function.comp_def, hsame]

/-- What counts as given is the value of its key. -/
theorem field_of_declared? {m : Mapping Value} {key : String} {v : Value}
    (h : m.declared? key = some v) : m.field key = v := by
  rw [field, (Option.filter_eq_some_iff.mp h).1]
  rfl

/-! ## Changed values -/

/-- A function of key and value meets the key that is looked up, if that is a text. -/
theorem get?_map_str (m : Mapping α) (f : Scalar → α → β) (key : String) :
    get? (m.map fun e => (e.1, f e.1 e.2)) (.str key) = (m.get? (.str key)).map (f (.str key)) := by
  induction m with
  | nil => rfl
  | cons e rest ih =>
      rw [List.map_cons, get?_cons, get?_cons]
      split
      · next h => rw [Scalar.same_str.mp h, Option.map_some]
      · exact ih

@[simp] theorem keys_mapValues (f : α → β) (m : Mapping α) : (m.mapValues f).keys = m.keys := by
  simp only [keys, mapValues, List.map_map, Function.comp_def]

/-! ## Insertion -/

theorem get?_insert (m : Mapping α) (key : Scalar) (value : α) (name : Scalar) :
    (m.insert key value).get? name = if key.same name then some value else m.get? name := by
  induction m with
  | nil => rw [insert, get?_cons]
  | cons e rest ih =>
      rw [insert]
      cases he : e.1.same key with
      | true =>
          rw [if_pos rfl, get?_cons, get?_cons]
          simp only [Scalar.same_comm _ name, Scalar.same_congr he]
          cases name.same key <;> rfl
      | false =>
          rw [if_neg Bool.false_ne_true, get?_cons, get?_cons, ih]
          -- An entry that `name` finds first is not the one that `key` names.
          cases hn : e.1.same name with
          | false => rfl
          | true =>
              have hkey : key.same name = false := Bool.eq_false_iff.mpr fun hk => by
                rw [Scalar.same_trans hn (Scalar.same_comm key name ▸ hk)] at he
                exact Bool.noConfusion he
              rw [hkey]
              rfl

@[simp] theorem contains_insert (m : Mapping α) (key : Scalar) (value : α) (name : Scalar) :
    (m.insert key value).contains name = (m.contains name || key.same name) := by
  rw [← isSome_get?, ← isSome_get?, get?_insert]
  cases key.same name <;> simp

/-- An overwritten entry keeps its place and the spelling of its key. -/
theorem keys_insert (m : Mapping α) (key : Scalar) (value : α) :
    (m.insert key value).keys = if m.contains key then m.keys else m.keys ++ [key] := by
  induction m with
  | nil => rfl
  | cons e rest ih =>
      rw [insert, contains_cons]
      cases he : e.1.same key with
      | true => rfl
      | false =>
          rw [if_neg Bool.false_ne_true, Bool.false_or]
          simp only [keys, List.map_cons] at ih ⊢
          rw [ih]
          cases contains rest key <;> rfl

theorem mem_insert {e : Scalar × α} (h : e ∈ m.insert key value) : e ∈ m ∨ e.2 = value := by
  induction m with
  | nil =>
      rw [insert, List.mem_singleton] at h
      exact .inr (h ▸ rfl)
  | cons e' rest ih =>
      rw [insert] at h
      split at h
      · rcases List.mem_cons.mp h with rfl | hrest
        · exact .inr rfl
        · exact .inl (List.mem_cons_of_mem _ hrest)
      · rcases List.mem_cons.mp h with rfl | hrest
        · exact .inl (List.mem_cons_self ..)
        · exact (ih hrest).imp_left (List.mem_cons_of_mem _)

/-! ## Insertion of many entries -/

theorem update_cons (m : Mapping α) (e : Scalar × α) (rest : List (Scalar × α)) :
    m.update (e :: rest) = (m.insert e.1 e.2).update rest := rfl

@[simp] theorem contains_update (m : Mapping α) (entries : List (Scalar × α)) (name : Scalar) :
    (m.update entries).contains name = (m.contains name || contains entries name) := by
  induction entries generalizing m with
  | nil => exact (Bool.or_false _).symm
  | cons e rest ih => rw [update_cons, ih, contains_insert, contains_cons, Bool.or_assoc]

@[simp] theorem contains_ofEntries (entries : List (Scalar × α)) (name : Scalar) :
    (ofEntries entries).contains name = contains entries name := by
  rw [ofEntries, contains_update, contains_nil, Bool.false_or]

/-- Of the entries of an update that a key names the last one counts. -/
theorem get?_update_reverse (m : Mapping α) (entries : List (Scalar × α)) (name : Scalar) :
    (m.update entries).get? name = (get? entries.reverse name).or (m.get? name) := by
  induction entries generalizing m with
  | nil => rfl
  | cons e rest ih =>
      rw [update_cons, ih, List.reverse_cons, get?_append, get?_insert, get?_cons, get?_nil]
      cases get? rest.reverse name <;> cases e.1.same name <;> rfl

theorem get?_ofEntries (entries : List (Scalar × α)) (name : Scalar) :
    (ofEntries entries).get? name = get? entries.reverse name := by
  rw [ofEntries, get?_update_reverse, get?_nil, Option.or_none]

/-- The values of an update are old values or given ones. -/
theorem mem_update {entries : List (Scalar × α)} {e : Scalar × α} (h : e ∈ m.update entries) :
    e ∈ m ∨ ∃ e' ∈ entries, e'.2 = e.2 := by
  induction entries generalizing m with
  | nil => exact .inl h
  | cons e₀ rest ih =>
      rw [update_cons] at h
      rcases ih h with hm | ⟨e', he', heq⟩
      · exact (mem_insert hm).imp_right fun hv => ⟨e₀, List.mem_cons_self .., hv.symm⟩
      · exact .inr ⟨e', List.mem_cons_of_mem _ he', heq⟩

theorem mem_ofEntries {entries : List (Scalar × α)} {e : Scalar × α} (h : e ∈ ofEntries entries) :
    ∃ e' ∈ entries, e'.2 = e.2 := by
  rcases mem_update h with hnil | hmem
  · exact absurd hnil List.not_mem_nil
  · exact hmem

/-! ## Distinct keys -/

/-- No two keys name one entry. -/
def Distinct (m : Mapping α) : Prop := m.keys.Pairwise fun a b => a.same b = false

instance (m : Mapping α) : Decidable m.Distinct :=
  inferInstanceAs (Decidable (m.keys.Pairwise fun a b => a.same b = false))

theorem Distinct.mapValues (f : α → β) (h : m.Distinct) : (m.mapValues f).Distinct := by
  rw [Distinct, keys_mapValues]
  exact h

theorem Distinct.insert (h : m.Distinct) (key : Scalar) (value : α) :
    (m.insert key value).Distinct := by
  rw [Distinct, keys_insert]
  cases hc : m.contains key with
  | true => exact h
  | false =>
      refine List.pairwise_append.mpr ⟨h, List.pairwise_singleton .., ?_⟩
      intro a ha b hb
      obtain rfl := List.mem_singleton.mp hb
      obtain ⟨e, he, rfl⟩ := List.mem_map.mp ha
      exact Bool.eq_false_iff.mpr fun hs => by
        rw [contains_iff.mpr ⟨e, he, hs⟩] at hc
        exact Bool.noConfusion hc

theorem Distinct.update (h : m.Distinct) (entries : List (Scalar × α)) :
    (m.update entries).Distinct := by
  induction entries generalizing m with
  | nil => exact h
  | cons e rest ih => exact ih (h.insert e.1 e.2)

/-- What the first key names, no later key does. -/
theorem Distinct.contains_tail {e : Scalar × α} {rest : Mapping α} (h : Distinct (e :: rest))
    (he : e.1.same name = true) : rest.contains name = false := by
  refine Bool.eq_false_iff.mpr fun hc => ?_
  obtain ⟨e', he', hs⟩ := contains_iff.mp hc
  have hdiff := (List.pairwise_cons.mp h).1 e'.1 (List.mem_map_of_mem he')
  rw [Scalar.same_trans he (Scalar.same_comm e'.1 name ▸ hs)] at hdiff
  exact Bool.noConfusion hdiff

theorem Distinct.contains_head {e : Scalar × α} {rest : Mapping α} (h : Distinct (e :: rest)) :
    rest.contains e.1 = false := by
  refine Bool.eq_false_iff.mpr fun hc => ?_
  obtain ⟨e', he', hs⟩ := contains_iff.mp hc
  have hdiff := (List.pairwise_cons.mp h).1 e'.1 (List.mem_map_of_mem he')
  rw [Scalar.same_comm, hs] at hdiff
  cases hdiff

/-- An entry is found by its own key. -/
theorem get?_of_mem (h : m.Distinct) {e : Scalar × α} (he : e ∈ m) : m.get? e.1 = some e.2 := by
  induction m with
  | nil => exact absurd he List.not_mem_nil
  | cons e' rest ih =>
      rw [get?_cons]
      rcases List.mem_cons.mp he with rfl | hrest
      · rw [Scalar.same_refl, if_pos rfl]
      · have hdiff := (List.pairwise_cons.mp h).1 e.1 (List.mem_map_of_mem hrest)
        rw [hdiff, if_neg Bool.false_ne_true]
        exact ih h.of_cons hrest

theorem distinct_nil : Distinct ([] : Mapping α) := List.Pairwise.nil

theorem distinct_ofEntries (entries : List (Scalar × α)) : (ofEntries entries).Distinct :=
  distinct_nil.update entries

theorem insert_of_not_contains (h : m.contains key = false) (value : α) :
    m.insert key value = m ++ [(key, value)] := by
  induction m with
  | nil => rfl
  | cons e rest ih =>
      rw [contains_cons, Bool.or_eq_false_iff] at h
      rw [insert, h.1, if_neg Bool.false_ne_true, ih h.2]
      rfl

/-- Entries whose keys are all different come one after the other. -/
theorem update_eq_append {entries : List (Scalar × α)} (h : Distinct (m ++ entries)) :
    m.update entries = m ++ entries := by
  induction entries generalizing m with
  | nil => exact (List.append_nil m).symm
  | cons e rest ih =>
      have hnew : m.contains e.1 = false := by
        rw [Distinct, keys, List.map_append, List.pairwise_append] at h
        refine Bool.eq_false_iff.mpr fun hc => ?_
        obtain ⟨e', he', hs⟩ := contains_iff.mp hc
        have hdiff := h.2.2 e'.1 (List.mem_map_of_mem he') e.1 (List.mem_cons_self ..)
        rw [hs] at hdiff
        exact Bool.noConfusion hdiff
      have hsplit : m ++ e :: rest = (m ++ [e]) ++ rest := by simp
      rw [hsplit] at h ⊢
      rw [update_cons, insert_of_not_contains hnew]
      exact ih h

theorem ofEntries_of_distinct (h : m.Distinct) : ofEntries m = m := update_eq_append (m := []) h

/-! ## Entries with distinct keys, laid over others or picked from them -/

/-- The entries of an update win over the old ones. -/
theorem get?_update {entries : Mapping α} (h : entries.Distinct) (m : Mapping α) (name : Scalar) :
    (m.update entries).get? name = (entries.get? name).or (m.get? name) := by
  induction entries generalizing m with
  | nil => rfl
  | cons e rest ih =>
      rw [update_cons, ih h.of_cons, get?_insert, get?_cons]
      cases he : e.1.same name with
      | true =>
          rw [get?_eq_none (h.contains_tail he)]
          rfl
      | false => rfl

theorem keys_update {entries : Mapping α} (h : entries.Distinct) (m : Mapping α) :
    (m.update entries).keys = m.keys ++ entries.keys.filter fun key => !m.contains key := by
  induction entries generalizing m with
  | nil => exact (List.append_nil _).symm
  | cons e rest ih =>
      obtain ⟨hhead, htail⟩ := List.pairwise_cons.mp h
      have hfilter : (keys rest).filter (fun key => !(m.insert e.1 e.2).contains key) =
          (keys rest).filter fun key => !m.contains key := List.filter_congr fun key hkey => by
        rw [contains_insert, hhead key hkey, Bool.or_false]
      rw [update_cons, ih htail, hfilter, keys_insert]
      cases hc : m.contains e.1 <;> simp [keys, hc]

theorem get?_filterMap (h : m.Distinct) (f : α → Option β) (name : Scalar) :
    get? (m.filterMap fun e => (f e.2).map (e.1, ·)) name = (m.get? name).bind f := by
  induction m with
  | nil => rfl
  | cons e rest ih =>
      have hrest := ih h.of_cons
      rw [List.filterMap_cons, get?_cons]
      cases he : e.1.same name with
      | true =>
          have hnone : get? rest name = none := get?_eq_none (h.contains_tail he)
          cases hf : f e.2 with
          | none => simpa [hf, hnone] using hrest
          | some v => simp [hf, get?_cons, he]
      | false =>
          cases hf : f e.2 with
          | none => simpa using hrest
          | some v => simpa [get?_cons, he] using hrest

/-- What holds of all entries after an insertion. A key that is there keeps its spelling, so this is
about properties that do not depend on it. -/
theorem forall_mem_insert_iff {Q : Scalar → α → Prop}
    (hQ : ∀ a b v, a.same b = true → (Q a v ↔ Q b v)) (h : m.Distinct) (key : Scalar) (value : α) :
    (∀ e ∈ m.insert key value, Q e.1 e.2) ↔
      Q key value ∧ ∀ e ∈ m, e.1.same key = false → Q e.1 e.2 := by
  induction m with
  | nil => simp [insert]
  | cons e rest ih =>
      rw [insert]
      cases he : e.1.same key with
      | true =>
          have hother : ∀ e' ∈ rest, e'.1.same key = false := fun e' he' =>
            Bool.eq_false_iff.mpr (List.any_eq_false.mp (h.contains_tail he) e' he')
          rw [if_pos rfl, List.forall_mem_cons, List.forall_mem_cons, he, hQ _ _ _ he]
          refine and_congr_right fun _ => ⟨fun hrest => ⟨fun hf => (by cases hf), ?_⟩, fun hrest => ?_⟩
          · exact fun e' he' _ => hrest e' he'
          · exact fun e' he' => hrest.2 e' he' (hother e' he')
      | false =>
          rw [if_neg Bool.false_ne_true, List.forall_mem_cons, List.forall_mem_cons, ih h.of_cons, he]
          simp only [forall_const, and_left_comm]

/-- What holds of all entries after an update: it holds of the new entries, and of the old ones that
they leave. -/
theorem forall_mem_update_iff {Q : Scalar → α → Prop}
    (hQ : ∀ a b v, a.same b = true → (Q a v ↔ Q b v)) (h : m.Distinct) {entries : Mapping α}
    (hentries : entries.Distinct) :
    (∀ e ∈ m.update entries, Q e.1 e.2) ↔
      (∀ e ∈ entries, Q e.1 e.2) ∧ ∀ e ∈ m, entries.contains e.1 = false → Q e.1 e.2 := by
  induction entries generalizing m with
  | nil => simp [update]
  | cons e rest ih =>
      have hleft : ∀ a b v, a.same b = true →
          ((contains rest a = false → Q a v) ↔ (contains rest b = false → Q b v)) := by
        intro a b v hsame
        rw [contains_congr hsame rest, hQ a b v hsame]
      rw [update_cons, ih (h.insert e.1 e.2) hentries.of_cons, forall_mem_insert_iff hleft h,
        List.forall_mem_cons]
      simp only [hentries.contains_head, forall_const, contains_cons, Bool.or_eq_false_iff, and_imp,
        Scalar.same_comm e.1]
      rw [and_left_comm, and_assoc]

theorem keys_filterMap (m : Mapping α) (f : α → Option β) :
    keys (m.filterMap fun e => (f e.2).map (e.1, ·)) =
      keys (m.filter fun e => (f e.2).isSome) := by
  induction m with
  | nil => rfl
  | cons e rest ih =>
      simp only [keys] at ih ⊢
      cases hf : f e.2 <;> simp [hf, ih]

theorem Distinct.filterMap (h : m.Distinct) (f : α → Option β) :
    Distinct (m.filterMap fun e => (f e.2).map (e.1, ·)) := by
  rw [Distinct, keys_filterMap]
  exact List.Pairwise.sublist (List.filter_sublist.map _) h

end Mapping

end ActorSpec
