/-!
# Double precision numbers

A finite double is a sign and the 63 bits that follow it, read as one number: the codes of the
magnitudes in increasing order. Every finite magnitude is a whole multiple of `2 ^ -1074`, its
`units`, so all arithmetic here is exact arithmetic on natural numbers, rounded once: to the nearest
double, ties to the even code.
-/

namespace ActorSpec

inductive Binary64 where
  | nan
  | infinity (negative : Bool)
  | finite (negative : Bool) (code : Fin (2047 * Nat.pow 2 52))
deriving DecidableEq

namespace Binary64

/-! ## Magnitudes -/

/-- One is `2 ^ 1074` units. -/
def one : Nat := Nat.pow 2 1074

/-- The magnitude of a code: below `2 ^ 53` the code itself, above it the 53 bits of the significand
moved to the left. -/
def units (code : Nat) : Nat :=
  let binade := Nat.pow 2 52
  if code < binade then code else (binade + code % binade) * Nat.pow 2 (code / binade - 1)

/-- The whole number nearest to `num / den`, the even one of two. -/
def roundHalfEven (num den : Nat) : Nat :=
  let q := num / den
  if 2 * (num % den) < den ∨ (2 * (num % den) = den ∧ q % 2 = 0) then q else q + 1

/-- The code of the magnitude nearest to `num / den` units. Carrying into the next power of two is
right as it stands, because codes are consecutive. -/
def codeOfRatio (num den : Nat) : Nat :=
  let shift := Nat.log2 (num / den) - 52
  shift * Nat.pow 2 52 + roundHalfEven num (den * Nat.pow 2 shift)

/-- The double with a sign and a magnitude of `num / den` units. -/
def ofUnits (negative : Bool) (num den : Nat) : Binary64 :=
  if h : codeOfRatio num den < 2047 * Nat.pow 2 52 then .finite negative ⟨codeOfRatio num den, h⟩
  else .infinity negative

def zero : Binary64 := .finite false ⟨0, by decide⟩

/-- The double nearest to `± digits * 10 ^ exponent`. Far outside the range of doubles the power of
ten is not formed. -/
def ofDecimal (negative : Bool) (digits : Nat) (exponent : Int) : Binary64 :=
  let top : Int := (Nat.toDigits 10 digits).length + exponent
  if digits = 0 ∨ top < -330 then .finite negative ⟨0, by decide⟩
  else if 310 < top then .infinity negative
  else if 0 ≤ exponent then ofUnits negative (digits * Nat.pow 10 exponent.toNat * one) 1
  else ofUnits negative (digits * one) (Nat.pow 10 (-exponent).toNat)

def ofInt (n : Int) : Binary64 := ofUnits (n < 0) (n.natAbs * one) 1

/-! ## Arithmetic -/

def neg : Binary64 → Binary64
  | .nan => .nan
  | .infinity s => .infinity !s
  | .finite s c => .finite (!s) c

def isZero : Binary64 → Bool
  | .finite _ c => c.val == 0
  | _ => false

/-- Less than zero, so neither a zero nor a NaN. -/
def isNegative : Binary64 → Bool
  | .finite s c => s && c.val != 0
  | .infinity s => s
  | .nan => false

/-- The signed number of units of a finite double. -/
def signedUnits (negative : Bool) (code : Nat) : Int :=
  if negative then -(units code : Int) else units code

def add : Binary64 → Binary64 → Binary64
  | .nan, _ | _, .nan => .nan
  | .infinity s, .infinity t => if s = t then .infinity s else .nan
  | .infinity s, .finite .. => .infinity s
  | .finite .., .infinity t => .infinity t
  | .finite s c, .finite t d =>
    let sum := signedUnits s c + signedUnits t d
    ofUnits (if sum = 0 then s && t else sum < 0) sum.natAbs 1

def mul : Binary64 → Binary64 → Binary64
  | .nan, _ | _, .nan => .nan
  | .infinity s, .infinity t => .infinity (s != t)
  | .infinity s, .finite t d | .finite t d, .infinity s =>
    if d.val = 0 then .nan else .infinity (s != t)
  | .finite s c, .finite t d => ofUnits (s != t) (units c * units d) one

/-- The whole number that a double is, if it is one. -/
def toInt? : Binary64 → Option Int
  | .finite s c =>
    if units c % one = 0 then some (if s then -(units c / one : Nat) else (units c / one : Nat))
    else none
  | _ => none

end Binary64

end ActorSpec
