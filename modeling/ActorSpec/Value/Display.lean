import ActorSpec.Number.Limit
import ActorSpec.Number.Shortest
import ActorSpec.Text.Quoted
import ActorSpec.Value.Basic

/-!
# The text of a value in messages

A value on its own shows its bare text; inside a list or a mapping it is shown in the form that tells
its kind, with quotes around a text. `Value.isOverlong` says which values have no text at all.
-/

namespace ActorSpec

namespace Scalar

/-- The bare text of a scalar. -/
def display : Scalar → String
  | .null => "None"
  | .bool b => if b then "True" else "False"
  | .int n => toString n
  | .float x => String.ofList (x.text .plain)
  | .nan .. => "nan"
  | .str s => s
  | .bytes content => Text.quotedBytes content
  | .date d => d.text
  | .datetime t => t.text " "

/-- The text of a scalar that tells its kind. -/
def shown : Scalar → String
  | .str s => Text.quoted s
  | .date d => d.shown
  | .datetime t => t.shown
  | s => s.display

end Scalar

namespace Value

def joined (parts : List String) : String := String.intercalate ", " parts

mutual

def shown : Value → String
  | .scalar s => s.shown
  | .list items => "[" ++ joined (shownItems items) ++ "]"
  | .tuple [item] => "(" ++ item.shown ++ ",)"
  | .tuple items => "(" ++ joined (shownItems items) ++ ")"
  | .set [] => "set()"
  | .set members => "\x7b" ++ joined (members.map Scalar.shown) ++ "\x7d"
  | .mapping entries => "\x7b" ++ joined (shownEntries entries) ++ "\x7d"

def shownItems : List Value → List String
  | [] => []
  | item :: rest => item.shown :: shownItems rest

def shownEntries : List (Scalar × Value) → List String
  | [] => []
  | (key, value) :: rest => (key.shown ++ ": " ++ value.shown) :: shownEntries rest

end

/-- The bare text of a scalar, and the shown form of anything with parts. -/
def display : Value → String
  | .scalar s => s.display
  | v => v.shown

end Value

/-! ## Values without a text -/

/-- An integer of too many digits. -/
def Scalar.isOverlong : Scalar → Bool
  | .int n => Numeral.isOverlong n
  | _ => false

namespace Value

mutual

/-- Some integer in the value has too many digits. -/
def isOverlong : Value → Bool
  | .scalar s => s.isOverlong
  | .list items | .tuple items => anyOverlong items
  | .set members => members.any (·.isOverlong)
  | .mapping entries => anyOverlongEntry entries

def anyOverlong : List Value → Bool
  | [] => false
  | item :: rest => item.isOverlong || anyOverlong rest

def anyOverlongEntry : List (Scalar × Value) → Bool
  | [] => false
  | (key, value) :: rest => key.isOverlong || value.isOverlong || anyOverlongEntry rest

end

end Value

/-- The name of the kind of a value. -/
def Value.kindName : Value → String
  | .scalar .null => "NoneType"
  | .scalar (.bool _) => "bool"
  | .scalar (.int _) => "int"
  | .scalar (.float _) | .scalar (.nan ..) => "float"
  | .scalar (.str _) => "str"
  | .scalar (.bytes _) => "bytes"
  | .scalar (.date _) => "date"
  | .scalar (.datetime _) => "datetime"
  | .list _ => "list"
  | .tuple _ => "tuple"
  | .set _ => "set"
  | .mapping _ => "dict"

end ActorSpec
