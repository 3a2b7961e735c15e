import ActorSpec.Calendar
import ActorSpec.Json.Reader
import ActorSpec.Text.Quoted

/-!
# Faults of YAML text

Text that is not YAML, or that holds data of a kind that its tag does not fit, is `malformed`. The other
faults are those of a scalar that has the form, or the tag, of a number, a truth value, a date or a
character but no value.

An alias inside of the node that its anchor names is no fault of the text. It makes a graph without an
end, which is neither a tree of nodes nor a value, and looking for the places of its parts never ends.
-/

namespace ActorSpec.Yaml

inductive Fault where
  | malformed
  | character (code : Nat)
  | emptyNumeral
  | integer (base : Nat) (text : String)
  | longInteger (digits : Nat)
  | double (text : String)
  | hugeFactor
  | truth (word : String)
  /-- A text that is to be a date. -/
  | noMoment
  /-- A mapping with a default value that is to be a date. -/
  | momentOfParts
  | calendar (fault : CalendarFault)
  | endless
deriving DecidableEq

def Fault.message : Fault → String
  | .malformed => "not well-formed"
  | .character code =>
    if code < 0x80000000 then "chr() arg not in range(0x110000)"
    else "Python int too large to convert to C int"
  | .emptyNumeral => "string index out of range"
  | .integer base text =>
    "invalid literal for int() with base " ++ toString base ++ ": " ++ Text.quoted text
  | .longInteger digits => Numeral.unreadMessage digits
  | .double text => "could not convert string to float: " ++ Text.quoted text
  | .hugeFactor => "int too large to convert to float"
  | .truth word => Text.quoted word
  | .noMoment => "'NoneType' object has no attribute 'groupdict'"
  | .momentOfParts => "expected string or bytes-like object, got 'list'"
  | .calendar fault => fault.message
  | .endless => "never ends"

end ActorSpec.Yaml
