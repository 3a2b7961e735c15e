import ActorSpec.Field.Kind
import ActorSpec.Value.Display

/-!
# Inference by fallback rules

An attribute that a declaration leaves out is inferred by a list of rules: the first rule that applies
gives the value. An `Inference` ends with a step that always applies, so it has a value for every
declaration; a bare list of rules may have none.
-/

namespace ActorSpec

/-- The attributes that a field declares. -/
abbrev Declaration := Mapping Value

structure FallbackRule where
  description : String
  applies : String → Declaration → Bool
  value : String → Declaration → Value

/-- The text that rules see of a name. -/
def ruleName : Value → String
  | .null => ""
  | name => name.display

namespace FallbackRule

/-- Applies when the attribute is declared, and gives it. -/
def declared (key : String) : FallbackRule where
  description := "declared '" ++ key ++ "'"
  applies _ d := (d.declared? key).isSome
  value _ d := d.field key

def always (value : Value) (description : String) : FallbackRule where
  description := description
  applies _ _ := true
  value _ _ := value

/-- The value of the first rule that applies. -/
def resolve? (rules : List FallbackRule) (name : Value) (d : Declaration) : Option Value :=
  (rules.find? (·.applies (ruleName name) d)).map (·.value (ruleName name) d)

/-- What is said of a list of rules none of which applies. -/
def unresolvedMessage : String := "inference rules must end with an unconditional rule"

end FallbackRule

/-- Rules with a last step that always applies. -/
structure Inference where
  steps : List FallbackRule
  otherwise : String
  fallback : Declaration → Value

namespace Inference

def rules (i : Inference) : List FallbackRule :=
  i.steps ++ [⟨i.otherwise, fun _ _ => true, fun _ d => i.fallback d⟩]

def resolve (i : Inference) (name : Value) (d : Declaration) : Value :=
  (FallbackRule.resolve? i.steps name d).getD (i.fallback d)

/-! ## The inferences of a field -/

/-- A declaration may ask for an array by a flag of its own. -/
def arrayShorthand : FallbackRule where
  description := "array shorthand"
  applies _ d := (d.declared? "array").isSome
  value _ _ := .str "array"

def fieldType : Inference where
  steps := [.declared "type", arrayShorthand]
  otherwise := "default"
  fallback _ := .str "string"

def format : Inference where
  steps := [
    .declared "format",
    arrayShorthand,
    { description := "url-like name"
      applies := fun name _ => name.endsWith "_url" || name == "website"
      value := fun _ _ => .str "link" },
    { description := "link list name"
      applies := fun name _ => name.endsWith "_links"
      value := fun _ _ => .str "array" }]
  otherwise := "default"
  fallback _ := .str "text"

/-- An input field has no array shorthand. -/
def inputType : Inference where
  steps := [.declared "type"]
  otherwise := "default"
  fallback _ := .str "string"

def editor : Inference where
  steps := [.declared "editor"]
  otherwise := "by input type"
  fallback d := .str (editorForType (inputType.resolve (.str "") d))

end Inference

end ActorSpec
