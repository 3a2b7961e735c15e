import ActorSpec.Field.Descriptor

/-!
# Sections of a config

Where the parts of a `schemas` section stand. Every part may be absent or of the wrong kind and then
counts as empty.
-/

namespace ActorSpec.Config

def actor (config : Value) : Mapping Value := config.section ["actor"]

def output (config : Value) : Mapping Value := config.section ["output"]

/-! ## Input -/

def input (config : Value) : Mapping Value := config.section ["input"]

def inputFields (config : Value) : Mapping Declaration := declarationsOf ((input config).field "fields")

def requiredInputs (config : Value) : List Value := ((input config).field "required").asList

def inputDefaults (config : Value) : Mapping Value := ((input config).field "defaults").asMapping

/-- The field group that each input field refers to, for those that refer to one. -/
def inputGroups (config : Value) : Mapping Value :=
  (inputFields config).filterMap fun (name, d) => (d.declared? "group").map (name, ·)

/-! ## Dataset -/

def dataset (config : Value) : Mapping Value := config.section ["dataset"]

def baseFields (config : Value) : Mapping Declaration :=
  declarationsOf ((dataset config).field "fields")

def fieldGroups (config : Value) : Mapping Value := ((dataset config).field "field_groups").asMapping

def views (config : Value) : Mapping Value := ((dataset config).field "views").asMapping

/-- The fields that the body of a view lists. -/
def viewFields (body : Value) : List Value := (body.asMapping.field "fields").asList

end ActorSpec.Config
