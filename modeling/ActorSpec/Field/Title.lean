import ActorSpec.Text.Case
import ActorSpec.Value.Display

/-!
# Titles

A name in snake case becomes a title: every segment between underscores gets a capital and lower case
after it, and a space takes the place of each underscore.
-/

namespace ActorSpec

/-- A capital, then lower case. -/
def capitalise : List Char → List Char
  | [] => []
  | c :: rest => Text.upperChar c ++ Text.lower rest

def titleChars (cs : List Char) : List Char :=
  (((cs.splitOn '_').map capitalise).intersperse [' ']).flatten

def titleCase (s : String) : String := String.ofList (titleChars s.toList)

/-- The title made from a name of any kind; null has none. -/
def titleOf : Value → String
  | .null => ""
  | name => titleCase name.display

end ActorSpec
