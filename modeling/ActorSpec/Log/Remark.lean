import ActorSpec.Log.Record
import ActorSpec.Value.Display

/-!
# Remarks

What is said about values on the way: a message that is logged, or a text that is made for an issue or a
document. A value with an integer of too many digits has no text, so a remark that names it cannot be
made, and the work ends there.
-/

namespace ActorSpec

structure Remark where
  named : List Value
  /-- What is logged, if the remark is a message. -/
  record? : Option Record

namespace Remark

/-- A text that names one value and is not logged. -/
def naming (v : Value) : Remark := ⟨[v], none⟩

def isSayable (r : Remark) : Bool := r.named.all (!·.isOverlong)

def records (remarks : List Remark) : List Record := remarks.filterMap (·.record?)

end Remark

/-- Some value that is to be named has no text. -/
inductive RemarkFault where
  | longInteger
deriving DecidableEq

def RemarkFault.message : RemarkFault → String
  | .longInteger => Numeral.unwrittenMessage

end ActorSpec
