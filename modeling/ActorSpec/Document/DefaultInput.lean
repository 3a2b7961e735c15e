import ActorSpec.Document.InputSchema

/-!
# The default input

The input of a local run: for every input field its default, else its prefill, else the value that its
type starts from. Texts and unknown types start from nothing. The defaults of the whole input are
laid over the result.
-/

namespace ActorSpec.DefaultInput

/-- The value of one field, if it has any. -/
def derived? (d : Declaration) : Option Value :=
  ((d.get? (.str "default")).or (d.get? (.str "prefill"))).or
    (zeroValue? (Declaration.inputType d))

def ofConfig (config : Value) : Mapping Value :=
  let fields := (Config.inputFields config).filterMap fun (name, d) => (derived? d).map (name, ·)
  Mapping.update fields (Config.inputDefaults config)

end ActorSpec.DefaultInput
