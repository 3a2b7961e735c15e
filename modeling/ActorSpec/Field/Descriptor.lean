import ActorSpec.Field.Inference
import ActorSpec.Field.Title

/-!
# Field descriptors

A sparse declaration with every attribute resolved. An attribute counts as declared when its value is
truthy, so an empty title falls back to the one made from the name. Constraints are carried over
whenever their key is present, whatever the value.
-/

namespace ActorSpec

structure Descriptor where
  name : String
  type : Value
  format : Value
  title : Value
  description : Value
  editor : Value
  label : Value
  constraints : List (String × Value)

namespace Declaration

def type (d : Declaration) : Value := Inference.fieldType.resolve (.str "") d

def inputType (d : Declaration) : Value := Inference.inputType.resolve (.str "") d

def format (d : Declaration) (name : Value) : Value := Inference.format.resolve name d

def editor (d : Declaration) : Value := Inference.editor.resolve (.str "") d

def title (d : Declaration) (name : Value) : Value :=
  (d.declared? "title").getD (.str (titleOf name))

def description (d : Declaration) : Value :=
  ((d.declared? "description").or (d.declared? "desc")).getD (.str "")

def label (d : Declaration) (name : Value) : Value := (d.declared? "label").getD (d.title name)

/-- The attributes that an input property takes over as they stand. -/
def constraintKeys : List String :=
  ["sectionCaption", "prefill", "default", "minLength", "maxLength", "minimum", "maximum", "enum"]

def constraints (d : Declaration) : List (String × Value) :=
  constraintKeys.filterMap fun key => (d.get? (.str key)).map (key, ·)

def describe (d : Declaration) (name : Value) : Descriptor where
  name := name.display
  type := d.type
  format := d.format name
  title := d.title name
  description := d.description
  editor := d.editor
  label := d.label name
  constraints := d.constraints

end Declaration

/-- The declarations of a mapping of fields; a field without a body declares nothing. -/
def declarationsOf (fields : Value) : Mapping Declaration :=
  fields.asMapping.mapValues Value.asMapping

end ActorSpec
