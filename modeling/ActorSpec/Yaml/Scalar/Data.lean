import ActorSpec.Number.Limit
import ActorSpec.Number.Numeral
import ActorSpec.Text.Base64
import ActorSpec.Text.Case
import ActorSpec.Value.Scalar
import ActorSpec.Yaml.Fault
import ActorSpec.Yaml.Scalar.Tag

/-!
# The data of a scalar

What the text of a scalar stands for under its tag. A form that a plain scalar is recognised by need
not have a value, and a tag that is written out may not fit its text at all.
-/

namespace ActorSpec.Yaml

/-! ## Integers -/

/-- A text as an integer in a base; only bases that are powers of two take any number of digits. -/
def integerIn (base : Nat) (cs : List Char) : Except Fault Int :=
  match Numeral.integer? base cs with
  | none => .error (.integer base (String.ofList cs))
  | some n =>
    let digits := cs.countP fun c => (Text.digitValue? c).isSome
    if base = 10 ∧ Numeral.maxDigits < digits then .error (.longInteger digits) else .ok n

/-- An unsigned integer in any of its forms: decimal, binary, octal, hexadecimal, or parts in base
sixty. -/
def unsignedInteger (cs : List Char) : Except Fault Int :=
  match cs with
  | [] => .error .emptyNumeral
  | ['0'] => .ok 0
  | '0' :: 'b' :: rest => integerIn 2 rest
  | '0' :: 'x' :: rest => integerIn 16 rest
  | '0' :: _ => integerIn 8 cs
  | _ =>
    if cs.contains ':' then do
      let parts ← (cs.splitOn ':').mapM (integerIn 10)
      return parts.foldl (fun n part => n * 60 + part) 0
    else integerIn 10 cs

def integerOf (text : String) : Except Fault Int := do
  let cs := text.toList.filter (· != '_')
  if cs.isEmpty then throw .emptyNumeral
  let (negative, unsigned) := Numeral.splitSign cs
  let n ← unsignedInteger unsigned
  return if negative then -n else n

/-! ## Doubles -/

def doubleIn (cs : List Char) : Except Fault Binary64 :=
  match Numeral.double? cs with
  | some x => .ok x
  | none => .error (.double (String.ofList cs))

/-- Parts in base sixty, the last first: each is weighed by a power of sixty and added in turn. -/
def sexagesimal : List Binary64 → Int → Binary64 → Except Fault Binary64
  | [], _, sum => .ok sum
  | part :: rest, weight, sum =>
    match Binary64.ofInt weight with
    | .finite s c => sexagesimal rest (weight * 60) (sum.add (part.mul (.finite s c)))
    | _ => .error .hugeFactor

def unsignedDouble (cs : List Char) : Except Fault Binary64 :=
  if cs = ".inf".toList then .ok (.infinity false)
  else if cs = ".nan".toList then .ok .nan
  else if cs.contains ':' then do
    let parts ← (cs.splitOn ':').mapM doubleIn
    sexagesimal parts.reverse 1 .zero
  else doubleIn cs

/-- The text of a double in lower case, without separators. -/
def doubleText (text : String) : List Char := Text.lower (text.toList.filter (· != '_'))

def doubleOf (text : String) : Except Fault Binary64 := do
  let cs := doubleText text
  if cs.isEmpty then throw .emptyNumeral
  let (negative, unsigned) := Numeral.splitSign cs
  let x ← unsignedDouble unsigned
  return if negative then x.neg else x

/-- The double of a text at a place. The NaN of the texts that are recognised by their form is one and
the same; any other is an object of its own. -/
def floatOf (text : String) (start : Mark) : Except Fault Scalar :=
  (doubleOf text).map fun
    | .nan =>
      if (Numeral.splitSign (doubleText text)).2 = ".nan".toList then .float .nan
      else .nan start.line start.column
    | x => .float x

/-! ## Dates and times -/

/-- The digits behind the point of a second as microseconds; what is beyond them is cut off. -/
def microseconds (fraction : List Char) : Nat :=
  natOf ((fraction ++ List.replicate 6 '0').take 6)

def momentOf (text : String) : Except Fault Scalar :=
  match momentParts? (dropFinalFeed text.toList) with
  | none => .error .noMoment
  | some p =>
    let (year, month, day) := (natOf p.year, natOf p.month, natOf p.day)
    match p.time with
    | none => (Date.ofParts year month day).map .date |>.mapError .calendar
    | some (hour, minute, second, fraction) =>
      (Timestamp.ofParts year month day (natOf hour) (natOf minute) (natOf second)
        (microseconds fraction) p.offset).map .datetime |>.mapError .calendar

/-! ## All scalars -/

def truthOf (text : String) : Except Fault Scalar :=
  let word := String.ofList (Text.lower text.toList)
  if trueWords.contains word then .ok (.bool true)
  else if falseWords.contains word then .ok (.bool false)
  else .error (.truth word)

def binaryOf (text : String) : Except Fault Scalar :=
  match Text.base64? text.toList with
  | some content => if text.toList.all (·.toNat < 128) then .ok (.bytes content) else .error .malformed
  | none => .error .malformed

/-- The data of a scalar with a tag, written at a place. -/
def scalarOf (tag : Tag) (text : String) (start : Mark) : Except Fault Scalar :=
  match tag with
  | .null => .ok .null
  | .bool => truthOf text
  | .int => (integerOf text).map .int
  | .float => floatOf text start
  | .timestamp => momentOf text
  | .str => .ok (.str text)
  | .binary => binaryOf text
  | .merge | .value | .seq | .map | .omap | .pairs | .set | .other _ => .error .malformed

end ActorSpec.Yaml
