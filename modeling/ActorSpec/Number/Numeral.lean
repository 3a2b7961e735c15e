import ActorSpec.Number.Binary64
import ActorSpec.Text.CharSet
import ActorSpec.Text.Hex

/-!
# Reading numerals

The forms of integers and doubles that may stand in a text on their own: blanks around them, a sign,
decimal digits of any script, and for integers the mark of the base.
-/

namespace ActorSpec.Numeral

/-- Replaces every decimal digit by the one of ASCII. -/
def asciiDigits (cs : List Char) : List Char :=
  cs.map fun c => ((Text.digitValue? c).map Nat.digitChar).getD c

/-- Splits a sign off; the flag is true for a minus. -/
def splitSign : List Char → Bool × List Char
  | '-' :: cs => (true, cs)
  | '+' :: cs => (false, cs)
  | cs => (false, cs)

/-- The letter that marks a base after a leading zero. -/
def baseMark (base : Nat) : Option Char :=
  match base with
  | 2 => some 'b'
  | 8 => some 'o'
  | 16 => some 'x'
  | _ => none

def dropBaseMark (base : Nat) : List Char → List Char
  | '0' :: c :: cs => if some c = baseMark base ∨ some c = (baseMark base).map Char.toUpper then cs
    else '0' :: c :: cs
  | cs => cs

/-- A numeral in `base` without signs or separators. -/
def natural? (base : Nat) (cs : List Char) : Option Nat :=
  if cs.isEmpty then none
  else cs.foldlM (fun n c => do
    let d ← Text.hexValue? c
    if d < base then some (n * base + d) else none) 0

def integer? (base : Nat) (cs : List Char) : Option Int :=
  let (negative, rest) := splitSign (asciiDigits (Text.strip cs))
  (natural? base (dropBaseMark base rest)).map fun n => if negative then -(n : Int) else n

/-- The exponent part of a decimal, empty or an `e` with a signed number after it. -/
def exponent? : List Char → Option Int
  | [] => some 0
  | c :: cs =>
    if c = 'e' ∨ c = 'E' then
      let (negative, digits) := splitSign cs
      if digits.all Char.isDigit then
        (natural? 10 digits).map fun n => if negative then -(n : Int) else n
      else none
    else none

/-- An unsigned decimal: digits with at most one point among them, then an exponent. -/
def decimal? (cs : List Char) : Option (Nat × Int) :=
  let whole := cs.takeWhile Char.isDigit
  let rest := cs.dropWhile Char.isDigit
  let (fraction, rest) := match rest with
    | '.' :: rest => (rest.takeWhile Char.isDigit, rest.dropWhile Char.isDigit)
    | _ => ([], rest)
  if whole.isEmpty && fraction.isEmpty then none
  else (exponent? rest).map fun e =>
    (Nat.ofDigitChars 10 (whole ++ fraction) 0, e - fraction.length)

def double? (cs : List Char) : Option Binary64 :=
  let (negative, rest) := splitSign (asciiDigits (Text.strip cs))
  let word := String.ofList (rest.map Char.toLower)
  if word = "inf" ∨ word = "infinity" then some (.infinity negative)
  else if word = "nan" then some .nan
  else (decimal? rest).map fun (n, e) => Binary64.ofDecimal negative n e

end ActorSpec.Numeral
