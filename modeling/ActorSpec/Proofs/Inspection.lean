import ActorSpec.Proofs.Demands

/-!
# Inspections

An inspection is a computation that learns about a config by taking parts of it as mappings or as
lists, one after the other, and may let the answers decide what to take next. It can be run in two
ways. The tolerant run takes a part of another kind as empty. The strict run stops there and refuses
the part; null counts as absent and is empty for both.

The tolerant run can list its reads (`Inspection.reads`). The strict run gives the same result unless
one of them is of another kind, and then it fails at the first of these (`Inspection.strict_eq`).
-/

namespace ActorSpec

/-- What a part is taken for. -/
inductive ReadAs where
  | mapping
  | list

namespace ReadAs

def typeName : ReadAs → TypeName
  | .mapping => .object
  | .list => .array

/-- What is learnt of a part that is taken for a kind. -/
def Answer : ReadAs → Type
  | .mapping => Mapping Value
  | .list => List Value

/-- The tolerant answer. -/
def take : (kind : ReadAs) → Value → kind.Answer
  | .mapping => Value.asMapping
  | .list => Value.asList

/-- The value is of the kind, or null. -/
def Fits (kind : ReadAs) (v : Value) : Prop := v = .null ∨ kind.typeName.IsTypeOf v

theorem fits_iff (kind : ReadAs) (v : Value) :
    kind.Fits v ↔ (Constraint.type [.null, kind.typeName]).Holds v := by
  simp [Fits, Constraint.Holds, TypeName.IsTypeOf]

instance (kind : ReadAs) (v : Value) : Decidable (kind.Fits v) :=
  decidable_of_iff _ (kind.fits_iff v).symm

end ReadAs

/-- A part that is taken for a kind. -/
structure Read where
  kind : ReadAs
  part : Part

def Read.Fits (r : Read) : Prop := r.kind.Fits r.part.value

instance (r : Read) : Decidable r.Fits := inferInstanceAs (Decidable (r.kind.Fits r.part.value))

/-- Each answer may decide what is read next. -/
inductive Inspection (α : Type) where
  | done (a : α)
  | read (kind : ReadAs) (part : Part) (next : kind.Answer → Inspection α)

namespace Inspection

variable {α β : Type}

def bind : Inspection α → (α → Inspection β) → Inspection β
  | .done a, f => f a
  | .read kind part next, f => .read kind part fun answer => (next answer).bind f

instance : Monad Inspection where
  pure := .done
  bind := bind

/-! ## Runs -/

/-- Takes every part for what it is asked to be. -/
def tolerant : Inspection α → α
  | .done a => a
  | .read kind part next => (next (kind.take part.value)).tolerant

/-- Fails at the first part that is neither of its kind nor null, with the path to it. -/
def strict : Inspection α → Except (List Step) α
  | .done a => .ok a
  | .read kind part next =>
    if kind.Fits part.value then (next (kind.take part.value)).strict else .error part.path

/-- The reads of the tolerant run, in their order. -/
def reads : Inspection α → List Read
  | .done _ => []
  | .read kind part next => ⟨kind, part⟩ :: (next (kind.take part.value)).reads

/-- The strict run gives what the tolerant one gives, unless some part is of another kind. -/
theorem strict_eq (r : Inspection α) :
    r.strict = match r.reads.find? (¬ ·.Fits) with
      | none => .ok r.tolerant
      | some misread => .error misread.part.path := by
  induction r with
  | done a => rfl
  | read kind part next ih =>
      rw [strict, reads, tolerant]
      split
      · next h =>
          have hfits : Read.Fits ⟨kind, part⟩ := h
          simp [ih, hfits]
      · next h =>
          have hmisread : ¬ Read.Fits ⟨kind, part⟩ := h
          simp [hmisread]

theorem strict_eq_ok {r : Inspection α} (h : ∀ x ∈ r.reads, x.Fits) :
    r.strict = .ok r.tolerant := by
  have hnone : r.reads.find? (¬ ·.Fits) = none :=
    List.find?_eq_none.mpr fun x hx => by simp [h x hx]
  rw [strict_eq, hnone]

/-! ## One inspection after another -/

@[simp] theorem tolerant_pure (a : α) : (pure a : Inspection α).tolerant = a := rfl

@[simp] theorem reads_pure (a : α) : (pure a : Inspection α).reads = [] := rfl

@[simp] theorem tolerant_bind (r : Inspection α) (f : α → Inspection β) :
    (r >>= f).tolerant = (f r.tolerant).tolerant := by
  induction r with
  | done a => rfl
  | read kind part next ih => exact ih _

@[simp] theorem reads_bind (r : Inspection α) (f : α → Inspection β) :
    (r >>= f).reads = r.reads ++ (f r.tolerant).reads := by
  induction r with
  | done a => rfl
  | read kind part next ih => exact congrArg (List.cons _) (ih _)

/-- One inspection for every element of a list. -/
def forEach (f : α → Inspection β) : List α → Inspection (List β)
  | [] => pure []
  | a :: rest => do
    let b ← f a
    return b :: (← forEach f rest)

@[simp] theorem tolerant_forEach (f : α → Inspection β) (as : List α) :
    (forEach f as).tolerant = as.map fun a => (f a).tolerant := by
  induction as with
  | nil => rfl
  | cons a rest ih => simp [forEach, ih]

@[simp] theorem reads_forEach (f : α → Inspection β) (as : List α) :
    (forEach f as).reads = as.flatMap fun a => (f a).reads := by
  induction as with
  | nil => rfl
  | cons a rest ih => simp [forEach, ih]

end Inspection

/-! ## Tables -/

/-- A mapping that was read, and where it stands. -/
structure Table where
  path : List Step
  entries : Mapping Value

/-- The part of an entry with a text key, null when there is none. -/
def Table.field (t : Table) (key : String) : Part :=
  ⟨t.path ++ [.entry (.str key)], t.entries.field key⟩

@[simp] theorem Table.value_field (t : Table) (key : String) :
    (t.field key).value = t.entries.field key := rfl

/-- The parts of all entries, by their keys. -/
def Table.parts (t : Table) : Mapping Part :=
  t.entries.map fun e => (e.1, ⟨t.path ++ [.entry e.1], e.2⟩)

/-- The table that a part is if it is taken for a mapping. -/
def Part.table (p : Part) : Table := ⟨p.path, p.value.asMapping⟩

@[simp] theorem Part.entries_table (p : Part) : p.table.entries = p.value.asMapping := rfl

namespace Inspection

variable {α : Type}

def table (p : Part) : Inspection Table :=
  .read .mapping p fun entries => .done ⟨p.path, entries⟩

def list (p : Part) : Inspection (List Value) := .read .list p .done

/-- One inspection for every entry of a table. -/
def eachEntry (f : Scalar → Part → Inspection α) (t : Table) : Inspection (Mapping α) :=
  forEach (fun e => do return (e.1, ← f e.1 e.2)) t.parts

@[simp] theorem tolerant_table (p : Part) : (table p).tolerant = p.table := rfl

@[simp] theorem reads_table (p : Part) : (table p).reads = [⟨.mapping, p⟩] := rfl

@[simp] theorem tolerant_list (p : Part) : (list p).tolerant = p.value.asList := rfl

@[simp] theorem reads_list (p : Part) : (list p).reads = [⟨.list, p⟩] := rfl

@[simp] theorem tolerant_eachEntry (f : Scalar → Part → Inspection α) (t : Table) :
    (eachEntry f t).tolerant =
      t.entries.map fun e => (e.1, (f e.1 ⟨t.path ++ [.entry e.1], e.2⟩).tolerant) := by
  simp [eachEntry, Table.parts]

@[simp] theorem reads_eachEntry (f : Scalar → Part → Inspection α) (t : Table) :
    (eachEntry f t).reads = t.parts.flatMap fun e => (f e.1 e.2).reads := by
  simp [eachEntry]

end Inspection

end ActorSpec
