import ActorSpec.Number.Binary64

/-!
# The text of a double

A double is written with the fewest significant digits that read back as the same double, and of
those texts the nearest to it. Exponents from -4 to 15 are written positionally, with at least one
digit after the point; all others in scientific notation with at least two digits of exponent.
-/

namespace ActorSpec.Binary64

/-! ## The digits -/

/-- The decimal exponent of the first digit of a magnitude that is not zero. -/
def leadingExponent (units : Nat) : Int :=
  (Nat.toDigits 10 (units * Nat.pow 10 330 / one)).length - 331

/-- `units` as a fraction of `10 ^ exponent`. -/
def onGrid (units : Nat) (exponent : Int) : Nat × Nat :=
  if 0 ≤ exponent then (units, one * Nat.pow 10 exponent.toNat)
  else (units * Nat.pow 10 (-exponent).toNat, one)

/-- The two neighbours of a fraction among the whole numbers, the nearer one first. -/
def neighbours (num den : Nat) : List Nat :=
  let near := roundHalfEven num den
  [near, if near = num / den then near + 1 else num / den]

/-- A decimal `digits * 10 ^ exponent` that reads back as the magnitude `code`. -/
def readsBack (code : Fin (2047 * Nat.pow 2 52)) (digits : Nat) (exponent : Int) : Bool :=
  ofDecimal false digits exponent = .finite false code

/-- The shortest decimal of a magnitude, as digits and the exponent of the last one. -/
def shortest (code : Fin (2047 * Nat.pow 2 52)) : Nat × Int :=
  let u := units code
  let top := leadingExponent u
  let found := (List.range 17).findSome? fun (n : Nat) =>
    let exponent := top - (n : Int)
    let (num, den) := onGrid u exponent
    ((neighbours num den).find? (readsBack code · exponent)).map (·, exponent)
  found.getD (u * Nat.pow 5 1074, -1074)

/-! ## The layout -/

/-- The spelling of the doubles that have no digits. -/
structure Spelling where
  nan : String
  infinity : String

/-- `digits`, the first of which has the decimal exponent `top`, in positional notation. -/
def positional (digits : List Char) (top : Int) : List Char :=
  if top < 0 then
    '0' :: '.' :: List.replicate (-top - 1).toNat '0' ++ digits
  else
    let whole := digits.take (top.toNat + 1)
    let fraction := digits.drop (top.toNat + 1)
    whole ++ List.replicate (top.toNat + 1 - whole.length) '0' ++
      '.' :: (if fraction.isEmpty then ['0'] else fraction)

/-- `digits`, the first of which has the decimal exponent `top`, in scientific notation. -/
def scientific (digits : List Char) (top : Int) : List Char :=
  let size := Nat.toDigits 10 top.natAbs
  digits.take 1 ++ (if digits.length ≤ 1 then [] else '.' :: digits.drop 1) ++
    ['e', if top < 0 then '-' else '+'] ++ List.replicate (2 - size.length) '0' ++ size

def layout (digits : List Char) (top : Int) : List Char :=
  if -4 ≤ top ∧ top < 16 then positional digits top else scientific digits top

/-- The text of a magnitude. -/
def magnitudeText (code : Fin (2047 * Nat.pow 2 52)) : List Char :=
  if code.val = 0 then ['0', '.', '0']
  else
    let (n, exponent) := shortest code
    let digits := Nat.toDigits 10 n
    layout (digits.reverse.dropWhile (· = '0')).reverse (exponent + digits.length - 1)

def text (spelling : Spelling) : Binary64 → List Char
  | .nan => spelling.nan.toList
  | .infinity s => (if s then ['-'] else []) ++ spelling.infinity.toList
  | .finite s c => (if s then ['-'] else []) ++ magnitudeText c

/-- The spelling in messages. -/
def Spelling.plain : Spelling := ⟨"nan", "inf"⟩

/-- The spelling in documents. -/
def Spelling.documentary : Spelling := ⟨"NaN", "Infinity"⟩

end ActorSpec.Binary64
