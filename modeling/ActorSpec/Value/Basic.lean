import ActorSpec.Value.Scalar

/-!
# Values and mappings

The data that spec files hold and that documents are made of. A mapping keeps its entries in order;
`Mapping.insert` replaces the value of an entry in place and keeps its key, so no key comes to name
two entries.
-/

namespace ActorSpec

/-- Entries in order, looked up by what their keys name. -/
abbrev Mapping (α : Type) := List (Scalar × α)

namespace Mapping

variable {α β : Type}

def get? (m : Mapping α) (key : Scalar) : Option α :=
  (m.find? (·.1.same key)).map (·.2)

def contains (m : Mapping α) (key : Scalar) : Bool := m.any (·.1.same key)

def keys (m : Mapping α) : List Scalar := m.map (·.1)

def mapValues (f : α → β) (m : Mapping α) : Mapping β := m.map fun e => (e.1, f e.2)

/-- Gives the first entry that `key` names a new value, or adds an entry at the end. -/
def insert (m : Mapping α) (key : Scalar) (value : α) : Mapping α :=
  match m with
  | [] => [(key, value)]
  | e :: rest => if e.1.same key then (e.1, value) :: rest else e :: insert rest key value

/-- Inserts the entries of a second mapping in their order. -/
def update (m : Mapping α) (entries : List (Scalar × α)) : Mapping α :=
  entries.foldl (fun acc e => acc.insert e.1 e.2) m

def ofEntries (entries : List (Scalar × α)) : Mapping α := update [] entries

end Mapping

inductive Value where
  | scalar (s : Scalar)
  | list (items : List Value)
  | tuple (items : List Value)
  /-- A set, with its members in the order in which they came. -/
  | set (members : List Scalar)
  | mapping (entries : List (Scalar × Value))

namespace Value

@[match_pattern] abbrev null : Value := .scalar .null
@[match_pattern] abbrev bool (b : Bool) : Value := .scalar (.bool b)
@[match_pattern] abbrev int (n : Int) : Value := .scalar (.int n)
@[match_pattern] abbrev str (s : String) : Value := .scalar (.str s)

/-- A mapping with text keys. -/
def ofFields (fields : List (String × Value)) : Value :=
  .mapping (fields.map fun f => (.str f.1, f.2))

def truthy : Value → Bool
  | .scalar s => s.truthy
  | .list items | .tuple items => !items.isEmpty
  | .set members => !members.isEmpty
  | .mapping entries => !entries.isEmpty

/-! ## Tolerant reading -/

/-- The entries of a mapping; anything else counts as an empty one. -/
def asMapping : Value → Mapping Value
  | .mapping entries => entries
  | _ => []

/-- The items of a list; anything else counts as an empty one. -/
def asList : Value → List Value
  | .list items | .tuple items => items
  | _ => []

end Value

namespace Mapping

/-- The value of an entry with a text key, null when there is none. -/
def field (m : Mapping Value) (key : String) : Value := (m.get? (.str key)).getD .null

/-- The value of an entry with a text key, if it counts as given. -/
def declared? (m : Mapping Value) (key : String) : Option Value :=
  (m.get? (.str key)).filter Value.truthy

end Mapping

/-- The mapping below `config` at the end of a path of text keys, empty when a level is missing. -/
def Value.section (config : Value) (path : List String) : Mapping Value :=
  path.foldl (fun m key => (m.field key).asMapping) config.asMapping

end ActorSpec
