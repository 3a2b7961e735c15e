import ActorSpec.Number.Binary64
import ActorSpec.Number.Limit
import ActorSpec.Text.Code
import ActorSpec.Text.Hex
import ActorSpec.Value.Basic

/-!
# Reading documents

Reads the text of a document back into a value. A numeral with a point or an exponent is a double and
any other an integer; the three doubles without digits may be written by name. Of two entries of a
mapping with one key the later gives the value and the earlier the place.

The readers of a value, of items and of members call each other on what remains of the text, so the
number of characters bounds how often.
-/

namespace ActorSpec.Json

inductive ReadFault where
  | malformed
  | longInteger (digits : Nat)
deriving DecidableEq

def ReadFault.message : ReadFault → String
  | .malformed => "not a well-formed document"
  | .longInteger digits => Numeral.unreadMessage digits

def isBlank (c : Char) : Bool := c = ' ' || c = '\t' || c = '\n' || c = '\r'

def skipBlank (cs : List Char) : List Char := cs.dropWhile isBlank

/-! ## Texts -/

/-- The number of four hexadecimal digits. -/
def unit? (a b c d : Char) : Option Nat := Text.hexNumber? [a, b, c, d]

/-- The character of an escape with one letter. -/
def simpleEscape? (c : Char) : Option Char :=
  match c with
  | '"' => some '"'
  | '\\' => some '\\'
  | '/' => some '/'
  | 'b' => some '\x08'
  | 'f' => some '\x0c'
  | 'n' => some '\n'
  | 'r' => some '\r'
  | 't' => some '\t'
  | _ => none

/-- The rest of a text after its opening quote, and what follows the closing one. Two escapes by number
in a row may be the two surrogates of one character. -/
def textRest : List Char → Option (List Char × List Char)
  | [] => none
  | '"' :: rest => some ([], rest)
  | '\\' :: 'u' :: a :: b :: c :: d :: '\\' :: 'u' :: e :: f :: g :: h :: rest =>
    match unit? a b c d, unit? e f g h with
    | some high, some low =>
      if Text.isHighSurrogate high && Text.isLowSurrogate low then
        (textRest rest).map fun (cs, r) =>
          (Text.ofCode (Text.joinSurrogates high low) ++ cs, r)
      else (textRest ('\\' :: 'u' :: e :: f :: g :: h :: rest)).map fun (cs, r) =>
        (Text.ofCode high ++ cs, r)
    | _, _ => none
  | '\\' :: 'u' :: a :: b :: c :: d :: rest =>
    match unit? a b c d with
    | some n => (textRest rest).map fun (cs, r) => (Text.ofCode n ++ cs, r)
    | none => none
  | '\\' :: c :: rest =>
    match simpleEscape? c with
    | some e => (textRest rest).map fun (cs, r) => (e :: cs, r)
    | none => none
  | c :: rest =>
    if c < ' ' ∨ c = '\\' then none else (textRest rest).map fun (cs, r) => (c :: cs, r)

/-! ## Numerals -/

/-- The digits after a point, if there is a point with a digit behind it. -/
def fraction (cs : List Char) : Option (List Char) × List Char :=
  match cs with
  | '.' :: rest =>
    let digits := rest.takeWhile Char.isDigit
    if digits.isEmpty then (none, cs) else (some digits, rest.dropWhile Char.isDigit)
  | _ => (none, cs)

/-- An exponent, if there is one with at least one digit. -/
def exponent (cs : List Char) : Option Int × List Char :=
  match cs with
  | c :: rest =>
    if c = 'e' ∨ c = 'E' then
      let (negative, rest) := match rest with
        | '-' :: rest => (true, rest)
        | '+' :: rest => (false, rest)
        | rest => (false, rest)
      let digits := rest.takeWhile Char.isDigit
      if digits.isEmpty then (none, cs)
      else
        let n := Nat.ofDigitChars 10 digits 0
        (some (if negative then -(n : Int) else n), rest.dropWhile Char.isDigit)
    else (none, cs)
  | [] => (none, cs)

/-- The digits before a point: a lone zero, or digits that do not start with one. -/
def wholeDigits (cs : List Char) : List Char :=
  match cs with
  | '0' :: _ => ['0']
  | _ => cs.takeWhile Char.isDigit

def numeral (negative : Bool) (cs : List Char) : Except ReadFault (Value × List Char) :=
  let whole := wholeDigits cs
  if whole.isEmpty then .error .malformed
  else
    let (decimals, rest) := fraction (cs.drop whole.length)
    let (power, rest) := exponent rest
    if decimals.isNone && power.isNone then
      if Numeral.maxDigits < whole.length then .error (.longInteger whole.length)
      else
        let n : Int := Nat.ofDigitChars 10 whole 0
        .ok (.int (if negative then -n else n), rest)
    else
      let decimals := decimals.getD []
      .ok (.scalar (.float (Binary64.ofDecimal negative
        (Nat.ofDigitChars 10 (whole ++ decimals) 0) (power.getD 0 - decimals.length))), rest)

/-! ## Values -/

mutual

/-- The value at the start of a text. -/
def valueAt : Nat → List Char → Except ReadFault (Value × List Char)
  | 0, _ => .error .malformed
  | fuel + 1, cs =>
    match cs with
    | '"' :: rest =>
      match textRest rest with
      | some (text, rest) => .ok (.str (String.ofList text), rest)
      | none => .error .malformed
    | '[' :: rest =>
      match skipBlank rest with
      | ']' :: rest => .ok (.list [], rest)
      | rest => do
        let (items, rest) ← itemsAt fuel rest
        return (.list items, rest)
    | '{' :: rest =>
      match skipBlank rest with
      | '}' :: rest => .ok (.mapping [], rest)
      | rest => do
        let (entries, rest) ← membersAt fuel rest
        return (.mapping (Mapping.ofEntries entries), rest)
    | 'n' :: 'u' :: 'l' :: 'l' :: rest => .ok (.null, rest)
    | 't' :: 'r' :: 'u' :: 'e' :: rest => .ok (.bool true, rest)
    | 'f' :: 'a' :: 'l' :: 's' :: 'e' :: rest => .ok (.bool false, rest)
    | 'N' :: 'a' :: 'N' :: rest => .ok (.scalar (.float .nan), rest)
    | 'I' :: 'n' :: 'f' :: 'i' :: 'n' :: 'i' :: 't' :: 'y' :: rest =>
      .ok (.scalar (.float (.infinity false)), rest)
    | '-' :: 'I' :: 'n' :: 'f' :: 'i' :: 'n' :: 'i' :: 't' :: 'y' :: rest =>
      .ok (.scalar (.float (.infinity true)), rest)
    | '-' :: rest => numeral true rest
    | rest => numeral false rest

/-- The items of a list that is not empty, up to its closing bracket. -/
def itemsAt : Nat → List Char → Except ReadFault (List Value × List Char)
  | 0, _ => .error .malformed
  | fuel + 1, cs => do
    let (item, rest) ← valueAt fuel cs
    match skipBlank rest with
    | ']' :: rest => return ([item], rest)
    | ',' :: rest =>
      let (others, rest) ← itemsAt fuel (skipBlank rest)
      return (item :: others, rest)
    | _ => throw .malformed

/-- The entries of a mapping that is not empty, up to its closing bracket. -/
def membersAt : Nat → List Char → Except ReadFault (List (Scalar × Value) × List Char)
  | 0, _ => .error .malformed
  | fuel + 1, cs =>
    match cs with
    | '"' :: rest =>
      match textRest rest with
      | none => .error .malformed
      | some (key, rest) =>
        match skipBlank rest with
        | ':' :: rest => do
          let (value, rest) ← valueAt fuel (skipBlank rest)
          let entry := (Scalar.str (String.ofList key), value)
          match skipBlank rest with
          | '}' :: rest => return ([entry], rest)
          | ',' :: rest =>
            let (others, rest) ← membersAt fuel (skipBlank rest)
            return (entry :: others, rest)
          | _ => throw .malformed
        | _ => .error .malformed
    | _ => .error .malformed

end

/-- The value that a whole text holds. -/
def read (text : String) : Except ReadFault Value := do
  let cs := skipBlank text.toList
  let (v, rest) ← valueAt (cs.length + 1) cs
  if (skipBlank rest).isEmpty then return v else throw .malformed

end ActorSpec.Json
