import ActorSpec.Dataset.Aggregate
import ActorSpec.Proofs.Mapping

/-!
# Writers of dataset fields

What a merge is measured against: the list of writers of a config, read straight off its sections. The
base mapping comes first and then every group in its order. For one name the list says who declares it
(`declaring`), who does so last (`last?`), and which declarations overwrite one of an earlier writer
(`collisionsAfter`, in the order in which they are met).
-/

namespace ActorSpec

/-- A mapping of fields and the origin of its fields: the key of a group, null for the base. -/
structure Writer where
  origin : Scalar
  fields : Mapping Declaration

namespace Writer

def ofBase (fields : Mapping Declaration) : Writer := ⟨.null, fields⟩

def ofGroup (group : Scalar × Value) : Writer := ⟨group.1, declarationsOf group.2⟩

def declares (w : Writer) (name : Scalar) : Bool := w.fields.contains name

/-- The names that are written, each as often as it is. -/
def names (ws : List Writer) : List Scalar := ws.flatMap (·.fields.keys)

/-- The writers of a name, in their order. -/
def declaring (ws : List Writer) (name : Scalar) : List Writer := ws.filter (·.declares name)

def last? (ws : List Writer) (name : Scalar) : Option Writer := (declaring ws name).getLast?

/-- What a writer overwrites of the earlier ones, in the order of its fields. -/
def overwrites (earlier : List Writer) (w : Writer) : List Collision :=
  w.fields.keys.filterMap fun name =>
    (last? earlier name).map fun previous => ⟨name, previous.origin, w.origin⟩

/-- All overwrites of some writers, met one writer after the other. -/
def collisionsAfter (earlier : List Writer) : List Writer → List Collision
  | [] => []
  | w :: rest => w.overwrites earlier ++ collisionsAfter (earlier ++ [w]) rest

end Writer

/-- The groups of a config as writers. -/
def Config.groupWriters (config : Value) : List Writer :=
  (Config.fieldGroups config).map Writer.ofGroup

/-- All writers of a config, the base in front. -/
def Config.writers (config : Value) : List Writer :=
  .ofBase (Config.baseFields config) :: Config.groupWriters config

/-- Every two neighbours in a list. -/
def consecutive {α : Type} (l : List α) : List (α × α) := l.zip l.tail

namespace Writer

variable {ws : List Writer} {w : Writer} {name : Scalar}

/-! ## Writers of one name -/

theorem declares_congr {n n' : Scalar} (h : n.same n' = true) (w : Writer) :
    w.declares n = w.declares n' := Mapping.contains_congr h w.fields

theorem last?_congr {n n' : Scalar} (h : n.same n' = true) (ws : List Writer) :
    last? ws n = last? ws n' := by
  simp only [last?, declaring, declares_congr h]

theorem declaring_cons (w : Writer) (ws : List Writer) (name : Scalar) :
    declaring (w :: ws) name =
      if w.declares name then w :: declaring ws name else declaring ws name := by
  rw [declaring, List.filter_cons]
  rfl

@[simp] theorem last?_nil (name : Scalar) : last? [] name = none := rfl

theorem last?_append_singleton (ws : List Writer) (w : Writer) (name : Scalar) :
    last? (ws ++ [w]) name = if w.declares name then some w else last? ws name := by
  simp only [last?, declaring, List.filter_append, List.filter_cons, List.filter_nil]
  split
  · exact List.getLast?_concat
  · rw [List.append_nil]

/-- The base is the last writer only of names that no group has. -/
theorem last?_cons (w : Writer) (ws : List Writer) (name : Scalar) :
    last? (w :: ws) name = (last? ws name).or (last? [w] name) := by
  simp only [last?, declaring_cons w ws, declaring_cons w []]
  cases w.declares name with
  | false => simp [declaring]
  | true =>
      simp only [if_true, declaring, List.filter_nil, List.getLast?_singleton]
      rw [List.getLast?_cons]
      cases (ws.filter (·.declares name)).getLast? <;> rfl

theorem declares_of_last? (h : last? ws name = some w) : w ∈ ws ∧ w.declares name = true :=
  List.mem_filter.mp (List.mem_of_getLast? h)

theorem isSome_last? (ws : List Writer) (name : Scalar) :
    (last? ws name).isSome = ws.any (·.declares name) := by
  rw [Bool.eq_iff_iff, last?, List.getLast?_isSome, declaring, List.any_eq_true, ne_eq,
    List.filter_eq_nil_iff]
  simp only [not_forall, not_not, exists_prop]

/-! ## Overwrites -/

theorem collisionsAfter_append_singleton (earlier ws : List Writer) (w : Writer) :
    collisionsAfter earlier (ws ++ [w]) =
      collisionsAfter earlier ws ++ w.overwrites (earlier ++ ws) := by
  induction ws generalizing earlier with
  | nil => simp [collisionsAfter]
  | cons x rest ih =>
      rw [List.cons_append, collisionsAfter, collisionsAfter, ih, List.append_assoc,
        List.append_assoc]
      rfl

theorem overwrites_append_singleton (earlier : List Writer) (origin : Scalar)
    (fields : Mapping Declaration) (name : Scalar) (d : Declaration) :
    overwrites earlier ⟨origin, fields ++ [(name, d)]⟩ =
      overwrites earlier ⟨origin, fields⟩ ++
        ((last? earlier name).map fun previous => ⟨name, previous.origin, origin⟩).toList := by
  simp only [overwrites, Mapping.keys, List.map_append, List.filterMap_append, List.map_cons,
    List.map_nil]
  rw [List.filterMap_cons]
  cases last? earlier name <;> rfl

/-- The first writer overwrites nothing. -/
theorem overwrites_nil (w : Writer) : w.overwrites [] = [] := by
  simp [overwrites]

/-- A collision of a name, with the two origins on its sides. -/
def sides (name : Scalar) (cs : List Collision) : List (Scalar × Scalar) :=
  (cs.filter (·.name.same name)).map fun c => (c.previous, c.winning)

theorem sides_append (name : Scalar) (cs cs' : List Collision) :
    sides name (cs ++ cs') = sides name cs ++ sides name cs' := by
  rw [sides, List.filter_append, List.map_append]
  rfl

theorem sides_overwrites (hd : w.fields.Distinct) (earlier : List Writer) (name : Scalar) :
    sides name (w.overwrites earlier) =
      if w.declares name then
        ((last? earlier name).map fun previous => (previous.origin, w.origin)).toList
      else [] := by
  obtain ⟨origin, fields⟩ := w
  induction fields with
  | nil => rfl
  | cons e rest ih =>
      have hfields : Mapping.Distinct (e :: rest) := hd
      have hrest := ih hfields.of_cons
      have hsplit : overwrites earlier ⟨origin, e :: rest⟩ =
          ((last? earlier e.1).map fun previous => ⟨e.1, previous.origin, origin⟩).toList ++
            overwrites earlier ⟨origin, rest⟩ := by
        simp only [overwrites, Mapping.keys, List.map_cons, List.filterMap_cons]
        cases last? earlier e.1 <;> rfl
      rw [hsplit, sides_append, hrest]
      by_cases he : e.1.same name = true
      · have hnone : Mapping.contains rest name = false := hfields.contains_tail he
        rw [last?_congr he]
        cases last? earlier name <;> simp [sides, declares, he, hnone]
      · -- A collision of another name has no part in the record of this one.
        have hother : sides name ((last? earlier e.1).map fun previous =>
            (⟨e.1, previous.origin, origin⟩ : Collision)).toList = [] := by
          cases last? earlier e.1 <;> simp [sides, he]
        have hsame : declares ⟨origin, e :: rest⟩ name = declares ⟨origin, rest⟩ name := by
          simp [declares, he]
        rw [hother, hsame]
        rfl

/-- Of one name, the overwrites are the steps from each of its writers to the next. -/
theorem sides_collisionsAfter (hd : ∀ w ∈ ws, w.fields.Distinct) (earlier : List Writer)
    (name : Scalar) :
    sides name (collisionsAfter earlier ws) =
      consecutive (((last? earlier name).toList ++ declaring ws name).map (·.origin)) := by
  induction ws generalizing earlier with
  | nil => cases h : last? earlier name <;> simp [declaring, collisionsAfter, sides, consecutive]
  | cons w rest ih =>
      rw [collisionsAfter, sides_append, sides_overwrites (hd w (List.mem_cons_self ..)),
        ih (fun w' hw' => hd w' (List.mem_cons_of_mem _ hw')), last?_append_singleton, declaring_cons]
      cases w.declares name with
      | false => rfl
      | true => cases last? earlier name <;> rfl

end Writer

end ActorSpec
