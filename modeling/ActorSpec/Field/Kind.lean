import ActorSpec.Value.Basic

/-!
# Field types

The six types that a field may have, with the editor that an input form shows for each and the value
that a local run starts from. A declaration may hold anything as its type; what is not one of the six
names gets the editor of a text and no value to start from.
-/

namespace ActorSpec

inductive Kind where
  | string
  | integer
  | number
  | boolean
  | array
  | object
deriving DecidableEq

namespace Kind

def all : List Kind := [.string, .integer, .number, .boolean, .array, .object]

def name : Kind → String
  | .string => "string"
  | .integer => "integer"
  | .number => "number"
  | .boolean => "boolean"
  | .array => "array"
  | .object => "object"

def ofName? (s : String) : Option Kind := all.find? (·.name = s)

/-- The field type that a value names. -/
def ofValue? : Value → Option Kind
  | .scalar (.str s) => ofName? s
  | _ => none

def isNumeric : Kind → Bool
  | .integer | .number => true
  | _ => false

def editor : Kind → String
  | .integer | .number => "number"
  | .boolean => "checkbox"
  | .array => "stringList"
  | .string | .object => "textfield"

/-- The value that a field starts from. -/
def zero? : Kind → Option Value
  | .boolean => some (.bool false)
  | .integer | .number => some (.int 0)
  | .array => some (.list [])
  | .string | .object => none

end Kind

def isNumericType (type : Value) : Bool := (Kind.ofValue? type).any Kind.isNumeric

def editorForType (type : Value) : String :=
  ((Kind.ofValue? type).map Kind.editor).getD "textfield"

def zeroValue? (type : Value) : Option Value := (Kind.ofValue? type).bind Kind.zero?

end ActorSpec
