/-!
# The limit on digits

Integers of more than so many digits are neither read nor written in base ten, so they have no text,
neither in messages nor in documents.
-/

namespace ActorSpec.Numeral

def maxDigits : Nat := 4300

/-- The integer has more digits than are written. -/
def isOverlong (n : Int) : Bool := decide (Nat.pow 10 maxDigits ≤ n.natAbs)

/-- What is said of a numeral that is not read. -/
def unreadMessage (digits : Nat) : String :=
  "Exceeds the limit (4300 digits) for integer string conversion: value has " ++ toString digits
    ++ " digits; use sys.set_int_max_str_digits() to increase the limit"

/-- What is said of an integer that is not written. -/
def unwrittenMessage : String :=
  "Exceeds the limit (4300 digits) for integer string conversion; use sys.set_int_max_str_digits() "
    ++ "to increase the limit"

end ActorSpec.Numeral
