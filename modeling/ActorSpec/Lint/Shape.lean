import ActorSpec.Value.Display

/-!
# Shapes

A shape is a list of rules that a value has to keep. Checking a value against a shape gives every rule
that it breaks, in the order of the rules, with the path from the value down to the part that breaks
it. A rule says nothing about values of another kind than its own.
-/

namespace ActorSpec

/-- The kinds of value that a shape tells apart. -/
inductive TypeName where
  | string
  | integer
  | number
  | boolean
  | array
  | object
  | null
deriving DecidableEq

namespace TypeName

def name : TypeName → String
  | .string => "string"
  | .integer => "integer"
  | .number => "number"
  | .boolean => "boolean"
  | .array => "array"
  | .object => "object"
  | .null => "null"

/-- Integers include doubles without a fraction; booleans are not numbers. -/
def admits : TypeName → Value → Bool
  | .string, .scalar (.str _) => true
  | .integer, .scalar (.int _) => true
  | .integer, .scalar (.float x) => x.toInt?.isSome
  | .number, .scalar (.int _) | .number, .scalar (.float _) | .number, .scalar (.nan ..) => true
  | .boolean, .scalar (.bool _) => true
  | .array, .list _ => true
  | .object, .mapping _ => true
  | .null, .null => true
  | _, _ => false

end TypeName

/-- One rule of a shape. -/
inductive Rule where
  /-- The value has one of the types. -/
  | type (names : List TypeName)
  /-- A text has at least so many characters. -/
  | minLength (size : Nat)
  /-- A number is not negative. -/
  | notNegative
  /-- The value is one of the texts. -/
  | oneOf (texts : List String)
  /-- An entry with a given key has a shape. -/
  | properties (fields : List (String × List Rule))
  /-- Every entry has a shape. -/
  | entries (rules : List Rule)
  /-- Every item has a shape. -/
  | items (rules : List Rule)
  /-- The value has all the shapes. -/
  | allOf (shapes : List (List Rule))
  /-- The value has a shape that is defined elsewhere by a name. -/
  | named (name : String) (rules : List Rule)

abbrev Shape := List Rule

/-- A step from a value to a part of it. -/
inductive Step where
  | entry (key : Scalar)
  | index (i : Nat)

def Step.display : Step → String
  | .entry key => key.display
  | .index i => toString i

/-- A rule that is broken: where, by what, and what is wrong with it. -/
structure Violation where
  path : List Step
  culprit : Value
  complaint : String

namespace Violation

def message (v : Violation) : String := v.culprit.shown ++ v.complaint

/-- The same violation seen from the value around it. -/
def below (step : Step) (v : Violation) : Violation := { v with path := step :: v.path }

/-- The step to an entry; a null key leaves no trace in the path. -/
def belowEntry (key : Scalar) (v : Violation) : Violation :=
  if key = .null then v else v.below (.entry key)

def notOfType (value : Value) (names : List TypeName) : Violation where
  path := []
  culprit := value
  complaint := " is not of type " ++ String.intercalate ", " (names.map fun n => Text.quoted n.name)

def tooShort (value : Value) (size : Nat) : Violation where
  path := []
  culprit := value
  complaint := if size = 1 then " should be non-empty" else " is too short"

def negative (value : Value) : Violation := ⟨[], value, " is less than the minimum of 0"⟩

def notOneOf (value : Value) (texts : List String) : Violation :=
  ⟨[], value, " is not one of " ++ (Value.list (texts.map .str)).shown⟩

end Violation

/-- A number less than zero. -/
def Value.isNegative : Value → Bool
  | .scalar (.int n) => n < 0
  | .scalar (.float x) => x.isNegative
  | _ => false

def Value.isOneOf (texts : List String) : Value → Bool
  | .scalar (.str s) => texts.contains s
  | _ => false

mutual

def Rule.violations : Rule → Value → List Violation
  | .type names, v => if names.any (·.admits v) then [] else [.notOfType v names]
  | .minLength size, v =>
    match v with
    | .scalar (.str s) => if s.length < size then [.tooShort v size] else []
    | _ => []
  | .notNegative, v => if v.isNegative then [.negative v] else []
  | .oneOf texts, v => if v.isOneOf texts then [] else [.notOneOf v texts]
  | .properties fields, v => fieldViolations fields v.asMapping
  | .entries rules, v => v.asMapping.flatMap fun (key, part) =>
    (rulesViolations rules part).map (·.belowEntry key)
  | .items rules, v =>
    match v with
    | .list parts => parts.zipIdx.flatMap fun (part, i) =>
      (rulesViolations rules part).map (·.below (.index i))
    | _ => []
  | .allOf shapes, v => shapesViolations shapes v
  | .named _ rules, v => rulesViolations rules v

def rulesViolations : List Rule → Value → List Violation
  | [], _ => []
  | rule :: rest, v => rule.violations v ++ rulesViolations rest v

def fieldViolations : List (String × List Rule) → Mapping Value → List Violation
  | [], _ => []
  | (key, rules) :: rest, m =>
    (match m.get? (.str key) with
      | some part => (rulesViolations rules part).map (·.below (.entry (.str key)))
      | none => []) ++ fieldViolations rest m

def shapesViolations : List (List Rule) → Value → List Violation
  | [], _ => []
  | rules :: rest, v => rulesViolations rules v ++ shapesViolations rest v

end

/-- Every rule of a shape that a value breaks. -/
def Shape.violations (shape : Shape) (v : Value) : List Violation := rulesViolations shape v

/-! ## The written form of a shape -/

mutual

def Rule.member : Rule → String × Value
  | .type [name] => ("type", .str name.name)
  | .type names => ("type", .list (names.map fun n => .str n.name))
  | .minLength size => ("minLength", .int size)
  | .notNegative => ("minimum", .int 0)
  | .oneOf texts => ("enum", .list (texts.map .str))
  | .properties fields => ("properties", .ofFields (fieldMembers fields))
  | .entries rules => ("additionalProperties", .ofFields (ruleMembers rules))
  | .items rules => ("items", .ofFields (ruleMembers rules))
  | .allOf shapes => ("allOf", .list (shapeValues shapes))
  | .named name _ => ("$ref", .str ("#/definitions/" ++ name))

def ruleMembers : List Rule → List (String × Value)
  | [] => []
  | rule :: rest => rule.member :: ruleMembers rest

def fieldMembers : List (String × List Rule) → List (String × Value)
  | [] => []
  | (key, rules) :: rest => (key, .ofFields (ruleMembers rules)) :: fieldMembers rest

def shapeValues : List (List Rule) → List Value
  | [] => []
  | rules :: rest => .ofFields (ruleMembers rules) :: shapeValues rest

end

def Shape.toValue (shape : Shape) : Value := .ofFields (ruleMembers shape)

end ActorSpec
