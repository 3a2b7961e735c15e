import ActorSpec.Text.Utf8

/-!
# Consoles

Printed text and progress messages go to the standard output, which has an encoding. What it does with
the code points that this has no form for is, like the encoding itself, up to the process that the
program runs in.
-/

namespace ActorSpec

structure Console where
  encoding : Text.Encoding
  /-- The code points without a form that are taken all the same. -/
  passes : Nat → Bool

namespace Console

/-- Takes texts as files do. -/
def strict : Console := ⟨.utf8, fun _ => false⟩

/-- Takes all texts, as a stream in memory does. -/
def lenient : Console := ⟨.utf8, fun _ => true⟩

/-- Why a text is not taken. -/
def fault? (c : Console) (text : String) : Option Text.EncodeFault :=
  Text.encodeFault? c.encoding c.passes text

def takes (c : Console) (text : String) : Bool := (c.fault? text).isNone

end Console

end ActorSpec
