import ActorSpec.Proofs.WellFormed
import ActorSpec.Proofs.Writers
import Mathlib.Algebra.Ring.Nat

/-!
# Merging dataset fields

`Merges base ws a` is the invariant of a merge: the three tables of `a` are what the base and the
writers `ws` give. It is kept by a single field (`Merges.addField`), where the group that is being
read counts as a writer of the fields read so far; from it follow a whole group (`Merges.addGroup`) and
all groups (`Merges.merge`).

The names of a merge (`contains_ofConfig`) and the number of its overwrites (`count_ofConfig`) do not
need the invariant, nor mappings with distinct keys.
-/

namespace ActorSpec

/-! ## First occurrences -/

/-- One more item counts only if nothing equal to it is there. -/
theorem eraseDupsBy_append_singleton {α : Type} (r : α → α → Bool) (l : List α) (x : α) :
    (l ++ [x]).eraseDupsBy r =
      if (l.eraseDupsBy r).any (r x) then l.eraseDupsBy r else l.eraseDupsBy r ++ [x] := by
  suffices h : ∀ seen, List.eraseDupsBy.loop r (l ++ [x]) seen =
      if (List.eraseDupsBy.loop r l seen).any (r x) then List.eraseDupsBy.loop r l seen
      else List.eraseDupsBy.loop r l seen ++ [x] from h []
  induction l with
  | nil =>
      intro seen
      simp only [List.nil_append, List.eraseDupsBy.loop, List.any_reverse]
      cases seen.any (r x) <;> simp
  | cons a rest ih =>
      intro seen
      rw [List.cons_append, List.eraseDupsBy.loop, List.eraseDupsBy.loop]
      cases seen.any (r a) with
      | false => exact ih (a :: seen)
      | true => exact ih seen

theorem eraseDupsBy_keys {α : Type} {m : Mapping α} (h : m.Distinct) :
    m.keys.eraseDupsBy Scalar.same = m.keys := by
  induction m with
  | nil => rfl
  | cons e rest ih =>
      obtain ⟨hhead, htail⟩ := List.pairwise_cons.mp h
      have hkeep : ∀ b ∈ Mapping.keys rest, decide (b.same e.1 = false) = true := fun b hb =>
        decide_eq_true (Scalar.same_comm e.1 b ▸ hhead b hb)
      rw [Mapping.keys, List.map_cons, List.eraseDupsBy_cons, ← Mapping.keys,
        List.filter_eq_self.mpr hkeep, ih htail]

namespace Aggregate

variable {base : Mapping Declaration} {ws : List Writer} {a : Aggregate}

/-- Merges the fields of one writer. -/
def addWriter (a : Aggregate) (w : Writer) : Aggregate := a.addGroup w.origin w.fields

/-- Merges the fields of writers, one after the other. -/
def merge (a : Aggregate) (ws : List Writer) : Aggregate := ws.foldl addWriter a

theorem ofConfig_eq_merge (config : Value) :
    ofConfig config = (ofBase (Config.baseFields config)).merge (Config.groupWriters config) := by
  rw [merge, Config.groupWriters, List.foldl_map]
  rfl

theorem addGroup_cons (a : Aggregate) (group : Scalar) (f : Scalar × Declaration)
    (rest : Mapping Declaration) :
    a.addGroup group (f :: rest) = (a.addField group f.1 f.2).addGroup group rest := rfl

/-! ## Names -/

theorem contains_addGroup (a : Aggregate) (group : Scalar) (fields : Mapping Declaration)
    (name : Scalar) :
    (a.addGroup group fields).declarations.contains name =
      (a.declarations.contains name || fields.contains name) := by
  induction fields generalizing a with
  | nil => exact (Bool.or_false _).symm
  | cons f rest ih =>
      rw [addGroup_cons, ih, addField, Mapping.contains_insert, Mapping.contains_cons,
        Bool.or_assoc]

theorem contains_merge (a : Aggregate) (ws : List Writer) (name : Scalar) :
    (a.merge ws).declarations.contains name =
      (a.declarations.contains name || ws.any (·.declares name)) := by
  induction ws generalizing a with
  | nil => exact (Bool.or_false _).symm
  | cons w rest ih =>
      have hstep : a.merge (w :: rest) = (a.addWriter w).merge rest := rfl
      rw [hstep, ih, addWriter, contains_addGroup, List.any_cons, Writer.declares, Bool.or_assoc]

/-- The merged names are those that some writer declares. -/
theorem contains_ofConfig (config : Value) (name : Scalar) :
    (ofConfig config).declarations.contains name =
      (Config.writers config).any (·.declares name) := by
  rw [ofConfig_eq_merge, contains_merge, Config.writers, List.any_cons]
  rfl

/-- What all writers declare, the merged fields have. -/
theorem forall_mem_addGroup {P : Declaration → Prop} (ha : ∀ e ∈ a.declarations, P e.2)
    (group : Scalar) {fields : Mapping Declaration} (hf : ∀ e ∈ fields, P e.2) :
    ∀ e ∈ (a.addGroup group fields).declarations, P e.2 := by
  induction fields generalizing a with
  | nil => exact ha
  | cons f rest ih =>
      refine ih (a := a.addField group f.1 f.2) (fun e he => ?_)
        (fun e he => hf e (List.mem_cons_of_mem _ he))
      rcases Mapping.mem_insert he with hold | hnew
      · exact ha e hold
      · exact hnew ▸ hf f (List.mem_cons_self ..)

theorem forall_mem_ofConfig {P : Declaration → Prop} {config : Value}
    (h : ∀ w ∈ Config.writers config, ∀ e ∈ w.fields, P e.2) :
    ∀ e ∈ (ofConfig config).declarations, P e.2 := by
  have hgroups : ∀ (ws : List Writer) (a : Aggregate), (∀ e ∈ a.declarations, P e.2) →
      (∀ w ∈ ws, ∀ e ∈ w.fields, P e.2) → ∀ e ∈ (a.merge ws).declarations, P e.2 := by
    intro ws
    induction ws with
    | nil => exact fun a ha _ => ha
    | cons w rest ih =>
        intro a ha hws
        exact ih (a.addWriter w)
          (forall_mem_addGroup ha w.origin (hws w (List.mem_cons_self ..)))
          (fun w' hw' => hws w' (List.mem_cons_of_mem _ hw'))
  rw [ofConfig_eq_merge]
  exact hgroups _ _ (h _ (List.mem_cons_self ..)) (fun w hw => h w (List.mem_cons_of_mem _ hw))

/-! ## Every field is a new name or an overwrite -/

def count (a : Aggregate) : Nat := a.names.length + a.collisions.length

theorem count_addField (a : Aggregate) (group name : Scalar) (d : Declaration) :
    (a.addField group name d).count = a.count + 1 := by
  simp only [count, names, addField, Mapping.keys_insert]
  cases a.declarations.contains name with
  | true =>
      simp only [if_true, List.length_append, List.length_singleton]
      omega
  | false =>
      simp only [Bool.false_eq_true, if_false, List.length_append, List.length_singleton]
      omega

theorem count_addGroup (a : Aggregate) (group : Scalar) (fields : Mapping Declaration) :
    (a.addGroup group fields).count = a.count + fields.length := by
  induction fields generalizing a with
  | nil => rfl
  | cons f rest ih =>
      rw [addGroup_cons, ih, count_addField, List.length_cons]
      omega

theorem count_merge (a : Aggregate) (ws : List Writer) :
    (a.merge ws).count = a.count + (ws.map (·.fields.length)).sum := by
  induction ws generalizing a with
  | nil => rfl
  | cons w rest ih =>
      have hstep : a.merge (w :: rest) = (a.addWriter w).merge rest := rfl
      rw [hstep, ih, addWriter, count_addGroup, List.map_cons, List.sum_cons]
      omega

theorem count_ofConfig (config : Value) :
    (ofConfig config).count = ((Config.writers config).map (·.fields.length)).sum := by
  rw [ofConfig_eq_merge, count_merge, Config.writers, List.map_cons, List.sum_cons]
  simp [count, ofBase, names, Mapping.keys, Writer.ofBase]

/-! ## The invariant -/

/-- The tables of `a` are what the base and the writers `ws` give. -/
structure Merges (base : Mapping Declaration) (ws : List Writer) (a : Aggregate) : Prop where
  names : a.names = (Writer.names (.ofBase base :: ws)).eraseDupsBy Scalar.same
  declaration : ∀ name, a.declarations.get? name =
    (Writer.last? (.ofBase base :: ws) name).bind (·.fields.get? name)
  origin : ∀ name, a.origins.get? name = (Writer.last? ws name).map (·.origin)
  collisions : a.collisions = Writer.collisionsAfter [.ofBase base] ws

theorem merges_ofBase (hd : base.Distinct) : Merges base [] (ofBase base) where
  names := by
    rw [Writer.names, List.flatMap_cons, List.flatMap_nil, List.append_nil]
    exact (eraseDupsBy_keys hd).symm
  declaration name := by
    rw [← List.nil_append [Writer.ofBase base], Writer.last?_append_singleton, Writer.declares]
    have hsome := Mapping.isSome_get? base name
    cases hg : base.get? name with
    | none =>
        rw [hg] at hsome
        simp [ofBase, Writer.ofBase, ← hsome, hg]
    | some d =>
        rw [hg] at hsome
        simp [ofBase, Writer.ofBase, ← hsome, hg]
  origin _ := rfl
  collisions := rfl

/-- A group of which nothing has been read yet writes nothing. -/
theorem Merges.openGroup (h : Merges base ws a) (group : Scalar) :
    Merges base (ws ++ [⟨group, []⟩]) a where
  names := by
    rw [h.names, Writer.names, Writer.names, ← List.cons_append, List.flatMap_append]
    simp [Mapping.keys]
  declaration name := by
    rw [h.declaration, ← List.cons_append, Writer.last?_append_singleton]
    rfl
  origin name := by
    rw [h.origin, Writer.last?_append_singleton]
    rfl
  collisions := by
    rw [h.collisions, Writer.collisionsAfter_append_singleton]
    exact (List.append_nil _).symm

theorem Merges.contains (h : Merges base ws a) (name : Scalar) :
    a.declarations.contains name = (Writer.last? (.ofBase base :: ws) name).isSome := by
  rw [← Mapping.isSome_get?, h.declaration]
  cases hl : Writer.last? (.ofBase base :: ws) name with
  | none => rfl
  | some w => exact (Mapping.isSome_get? w.fields name).trans (Writer.declares_of_last? hl).2

/-- Before a group comes to a name, the name's origin is that of its last writer. -/
theorem Merges.originOf (h : Merges base ws a) {name : Scalar} {w : Writer}
    (hw : Writer.last? (.ofBase base :: ws) name = some w) : a.originOf name = w.origin := by
  rw [Aggregate.originOf, h.origin]
  rw [Writer.last?_cons] at hw
  cases hl : Writer.last? ws name with
  | some w' =>
      rw [hl, Option.some_or] at hw
      exact congrArg Writer.origin (Option.some.inj hw)
  | none =>
      rw [hl, Option.none_or] at hw
      obtain rfl := List.mem_singleton.mp (Writer.declares_of_last? hw).1
      rfl

section AddField

variable {group name : Scalar} {read : Mapping Declaration} {d : Declaration}

theorem last?_append_read (hn : read.contains name = false) (ws : List Writer) :
    Writer.last? (ws ++ [⟨group, read⟩]) name = Writer.last? ws name := by
  rw [Writer.last?_append_singleton, Writer.declares, hn]
  rfl

theorem last?_append_field (ws : List Writer) (n : Scalar) :
    Writer.last? (ws ++ [⟨group, read ++ [(name, d)]⟩]) n =
      if name.same n then some ⟨group, read ++ [(name, d)]⟩
      else if read.contains n then some ⟨group, read ++ [(name, d)]⟩ else Writer.last? ws n := by
  rw [Writer.last?_append_singleton, Writer.declares]
  simp only [Mapping.contains_append, Mapping.contains_cons, Mapping.contains_nil, Bool.or_false]
  cases name.same n <;> simp

/-- The step of a merge: the group that is being read writes one field more. -/
theorem Merges.addField (h : Merges base (ws ++ [⟨group, read⟩]) a)
    (hn : read.contains name = false) (d : Declaration) :
    Merges base (ws ++ [⟨group, read ++ [(name, d)]⟩]) (a.addField group name d) where
  names := by
    have hwritten : Writer.names (.ofBase base :: (ws ++ [⟨group, read ++ [(name, d)]⟩])) =
        Writer.names (.ofBase base :: (ws ++ [⟨group, read⟩])) ++ [name] := by
      simp [Writer.names, Mapping.keys]
    have hkeys : a.names.any name.same = a.declarations.contains name := by
      simp [Aggregate.names, Mapping.keys, Mapping.contains, List.any_map, Function.comp_def,
        Scalar.same_comm name]
    rw [hwritten, eraseDupsBy_append_singleton, ← h.names, hkeys]
    exact Mapping.keys_insert ..
  declaration n := by
    have hold := h.declaration n
    rw [← List.cons_append, Writer.last?_append_singleton] at hold
    rw [Aggregate.addField, Mapping.get?_insert, ← List.cons_append, last?_append_field, hold]
    by_cases hs : name.same n = true
    · have hnone : read.get? n = none := by
        rw [← Option.not_isSome_iff_eq_none, Mapping.isSome_get?, ← Mapping.contains_congr hs, hn]
        exact Bool.false_ne_true
      simp [hs, Mapping.get?_append, Mapping.get?_cons, hnone]
    · have hsome := Mapping.isSome_get? read n
      by_cases hr : read.contains n = true
      · obtain ⟨x, hx⟩ := Option.isSome_iff_exists.mp (hsome.trans hr)
        simp [hs, hr, Writer.declares, Mapping.get?_append, hx]
      · simp [hs, hr, Writer.declares]
  origin n := by
    have hold := h.origin n
    rw [Writer.last?_append_singleton] at hold
    rw [Aggregate.addField, Mapping.get?_insert, last?_append_field, hold]
    by_cases hs : name.same n = true
    · simp [hs]
    · by_cases hr : read.contains n = true <;> simp [hs, hr, Writer.declares]
  collisions := by
    have hold := h.collisions
    rw [Writer.collisionsAfter_append_singleton, List.singleton_append] at hold
    rw [Writer.collisionsAfter_append_singleton, Writer.overwrites_append_singleton,
      List.singleton_append, ← List.append_assoc, ← hold, Aggregate.addField, h.contains,
      ← List.cons_append, last?_append_read hn]
    cases hl : Writer.last? (.ofBase base :: ws) name with
    | none => exact (List.append_nil _).symm
    | some w =>
        have horigin : a.originOf name = w.origin := h.originOf (by
          rw [← List.cons_append, last?_append_read hn, hl])
        rw [horigin]
        rfl

end AddField

theorem Merges.addGroup {group : Scalar} {read rest : Mapping Declaration}
    (h : Merges base (ws ++ [⟨group, read⟩]) a) (hd : Mapping.Distinct (read ++ rest)) :
    Merges base (ws ++ [⟨group, read ++ rest⟩]) (a.addGroup group rest) := by
  induction rest generalizing read a with
  | nil =>
      rw [List.append_nil]
      exact h
  | cons f rest ih =>
      have hnew : read.contains f.1 = false := Bool.eq_false_iff.mpr fun hc => by
        obtain ⟨e, he, hs⟩ := Mapping.contains_iff.mp hc
        rw [Mapping.Distinct, Mapping.keys, List.map_append, List.pairwise_append] at hd
        rw [hd.2.2 e.1 (List.mem_map_of_mem he) f.1 (List.mem_cons_self ..)] at hs
        exact Bool.noConfusion hs
      have hshift : read ++ f :: rest = (read ++ [(f.1, f.2)]) ++ rest := List.append_cons ..
      rw [hshift] at hd ⊢
      exact ih (h.addField hnew f.2) hd

theorem Merges.merge (h : Merges base ws a) {ws' : List Writer}
    (hd : ∀ w ∈ ws', w.fields.Distinct) : Merges base (ws ++ ws') (a.merge ws') := by
  induction ws' generalizing ws a with
  | nil =>
      rw [List.append_nil]
      exact h
  | cons w rest ih =>
      have hw : Merges base (ws ++ [w]) (a.addWriter w) :=
        (h.openGroup w.origin).addGroup (hd w (List.mem_cons_self ..))
      rw [List.append_cons]
      exact ih hw fun w' hw' => hd w' (List.mem_cons_of_mem _ hw')

theorem groupWriters_distinct {config : Value} (h : config.WellFormed) :
    ∀ w ∈ Config.groupWriters config, w.fields.Distinct := by
  intro w hw
  obtain ⟨g, hg, rfl⟩ := List.mem_map.mp hw
  exact Config.group_distinct h hg

theorem merges_ofConfig {config : Value} (h : config.WellFormed) :
    Merges (Config.baseFields config) (Config.groupWriters config) (ofConfig config) := by
  rw [ofConfig_eq_merge]
  exact (merges_ofBase (Config.baseFields_distinct h)).merge (groupWriters_distinct h)

/-- The base is met first and overwrites nothing. -/
theorem Merges.collisions_eq (h : Merges base ws a) :
    a.collisions = Writer.collisionsAfter [] (.ofBase base :: ws) := by
  rw [h.collisions, Writer.collisionsAfter, Writer.overwrites_nil]
  rfl

theorem sum_length_writers (config : Value) :
    ((Config.writers config).map (·.fields.length)).sum = (Config.baseFields config).length
      + ((Config.fieldGroups config).map fun g => g.2.asMapping.length).sum := by
  rw [Config.writers, List.map_cons, List.sum_cons, Config.groupWriters, List.map_map]
  simp [Writer.ofBase, Writer.ofGroup, Function.comp_def, declarationsOf, Mapping.mapValues]

/-- The merge of a config against its writers. The names are those that are written, each where and as
it is written first; a name has the declaration of its last writer, and the last group that has it as
its origin; from each writer of a name to the next there is one collision, and all collisions stand in
the order in which they are met; so every field that is written is a new name or a collision. All of it
is the invariant `Merges` of the whole merge, read off table by table. -/
theorem ofConfig_last_writer_wins (config : Value) (h : config.WellFormed) :
    let a := ofConfig config
    let writers := Config.writers config
    let groups := Config.groupWriters config
    a.names = (Writer.names writers).eraseDupsBy Scalar.same
    ∧ (∀ name, a.declarations.get? name =
        (Writer.last? writers name).bind (·.fields.get? name))
    ∧ (∀ name, a.isOptional name = groups.any (·.declares name)
        ∧ a.origins.get? name = (Writer.last? groups name).map (·.origin))
    ∧ (∀ name, Writer.sides name a.collisions =
        consecutive ((Writer.declaring writers name).map (·.origin)))
    ∧ a.collisions = Writer.collisionsAfter [] writers
    ∧ (Config.baseFields config).length
        + ((Config.fieldGroups config).map fun g => g.2.asMapping.length).sum
      = a.names.length + a.collisions.length := by
  intro a writers groups
  have hm : Merges (Config.baseFields config) groups a := merges_ofConfig h
  have hcollisions : a.collisions = Writer.collisionsAfter [] writers := hm.collisions_eq
  have hdistinct : ∀ w ∈ writers, w.fields.Distinct :=
    List.forall_mem_cons.mpr ⟨Config.baseFields_distinct h, groupWriters_distinct h⟩
  refine ⟨hm.names, hm.declaration, fun name => ⟨?_, hm.origin name⟩, fun name => ?_,
    hcollisions, ?_⟩
  · rw [isOptional, ← Mapping.isSome_get?, hm.origin, Option.isSome_map, Writer.isSome_last?]
  · rw [hcollisions, Writer.sides_collisionsAfter hdistinct]
    rfl
  · exact (sum_length_writers config).symm.trans (count_ofConfig config).symm

/-- A base and two groups that all declare `a`. -/
def overlapping : Value := .ofFields [("dataset", .ofFields [
  ("fields", .ofFields [("a", .null), ("b", .null)]),
  ("field_groups", .ofFields [
    ("g", .ofFields [("a", .ofFields [("title", .str "A")])]),
    ("h", .ofFields [("c", .null), ("a", .null)])])])]

theorem overlapping_merge :
    overlapping.WellFormed
    ∧ (ofConfig overlapping).names = [.str "a", .str "b", .str "c"]
    ∧ (ofConfig overlapping).origins.get? (.str "a") = some (.str "h")
    ∧ Writer.sides (.str "a") (ofConfig overlapping).collisions =
        [(.null, .str "g"), (.str "g", .str "h")] := by
  have hw : overlapping.WellFormed := Value.wellFormed_of_isWellFormed _ (by decide)
  obtain ⟨hnames, -, horigins, hsides, -⟩ := ofConfig_last_writer_wins overlapping hw
  refine ⟨hw, hnames.trans (by decide), (horigins (.str "a")).2.trans (by decide), ?_⟩
  exact (hsides (.str "a")).trans (by decide)

end Aggregate

end ActorSpec
