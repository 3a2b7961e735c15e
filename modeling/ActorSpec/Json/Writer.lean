import ActorSpec.Number.Limit
import ActorSpec.Number.Shortest
import ActorSpec.Text.Code
import ActorSpec.Text.Hex
import ActorSpec.Value.Basic

/-!
# Document text

A document is written with one entry or item a line, two more spaces for every level, and nothing
between the brackets of an empty list or mapping. Keys are written as texts. Dates, times, bytes and
sets have no written form, neither as values nor as keys, and neither have integers of too many digits.
-/

namespace ActorSpec.Json

/-- The kinds of value without a written form. -/
inductive UnwrittenKind where
  | date
  | datetime
  | bytes
  | set
deriving DecidableEq

def UnwrittenKind.name : UnwrittenKind → String
  | .date => "date"
  | .datetime => "datetime"
  | .bytes => "bytes"
  | .set => "set"

inductive WriteFault where
  | key (kind : UnwrittenKind)
  | value (kind : UnwrittenKind)
  | longInteger
deriving DecidableEq

def WriteFault.message : WriteFault → String
  | .key kind => "keys must be str, int, float, bool or None, not " ++ kind.name
  | .value kind => "Object of type " ++ kind.name ++ " is not JSON serializable"
  | .longInteger => Numeral.unwrittenMessage

/-- Which characters are escaped: the necessary ones, or all outside the printable ones of ASCII. -/
inductive Charset where
  | unicode
  | ascii
deriving DecidableEq

def unitEscape (unit : Nat) : List Char := '\\' :: 'u' :: Text.hexDigits 4 unit

/-- An escape by number, with two surrogates for a character beyond the basic plane. -/
def numberEscape (n : Nat) : List Char :=
  if n < 0x10000 then unitEscape n
  else unitEscape (0xD800 + (n - 0x10000) / 0x400)
    ++ unitEscape (0xDC00 + (n - 0x10000) % 0x400)

/-- What a code point is written as. A pair of characters that stands for one is left as it is unless
all of it is escaped. -/
def escapeCode (charset : Charset) (n : Nat) : List Char :=
  if n = '"'.toNat then ['\\', '"']
  else if n = '\\'.toNat then ['\\', '\\']
  else if n = '\n'.toNat then ['\\', 'n']
  else if n = '\r'.toNat then ['\\', 'r']
  else if n = '\t'.toNat then ['\\', 't']
  else if n = '\x08'.toNat then ['\\', 'b']
  else if n = '\x0c'.toNat then ['\\', 'f']
  else if n < 0x20 then numberEscape n
  else if charset = .ascii ∧ 0x7E < n then numberEscape n
  else Text.ofCode n

def textLiteral (charset : Charset) (s : String) : List Char :=
  '"' :: (Text.codes s.toList).flatMap (escapeCode charset) ++ ['"']

/-- The text that stands for a key. -/
def keyText : Scalar → Except WriteFault String
  | .null => .ok "null"
  | .bool b => .ok (if b then "true" else "false")
  | .int n => if Numeral.isOverlong n then .error .longInteger else .ok (toString n)
  | .float x => .ok (String.ofList (x.text .documentary))
  | .nan .. => .ok "NaN"
  | .str s => .ok s
  | .bytes _ => .error (.key .bytes)
  | .date _ => .error (.key .date)
  | .datetime _ => .error (.key .datetime)

def scalarLiteral (charset : Charset) : Scalar → Except WriteFault (List Char)
  | .null => .ok "null".toList
  | .bool b => .ok (if b then "true" else "false").toList
  | .int n => if Numeral.isOverlong n then .error .longInteger else .ok (toString n).toList
  | .float x => .ok (x.text .documentary)
  | .nan .. => .ok "NaN".toList
  | .str s => .ok (textLiteral charset s)
  | .bytes _ => .error (.value .bytes)
  | .date _ => .error (.value .date)
  | .datetime _ => .error (.value .datetime)

/-- A line break and the spaces in front of a line at `depth`. -/
def newline (depth : Nat) : List Char := '\n' :: List.replicate (2 * depth) ' '

/-- The parts of a list or mapping at `depth` between its brackets. -/
def enclose (opening closing : Char) (depth : Nat) (parts : List (List Char)) : List Char :=
  if parts.isEmpty then [opening, closing]
  else opening :: newline (depth + 1)
    ++ (parts.intersperse (',' :: newline (depth + 1))).flatten
    ++ newline depth ++ [closing]

mutual

/-- The text of a value whose first line is indented for `depth`. -/
def literal (charset : Charset) (depth : Nat) : Value → Except WriteFault (List Char)
  | .scalar s => scalarLiteral charset s
  | .list items => (literals charset (depth + 1) items).map (enclose '[' ']' depth)
  | .tuple items => (literals charset (depth + 1) items).map (enclose '[' ']' depth)
  | .set _ => .error (.value .set)
  | .mapping entries => (members charset (depth + 1) entries).map (enclose '{' '}' depth)

def literals (charset : Charset) (depth : Nat) : List Value → Except WriteFault (List (List Char))
  | [] => .ok []
  | item :: rest => do
    let first ← literal charset depth item
    return first :: (← literals charset depth rest)

def members (charset : Charset) (depth : Nat) :
    List (Scalar × Value) → Except WriteFault (List (List Char))
  | [] => .ok []
  | (key, value) :: rest => do
    let name ← keyText key
    let first ← literal charset depth value
    return (textLiteral charset name ++ ':' :: ' ' :: first) :: (← members charset depth rest)

end

/-- The text of a whole document, without a line break at its end. -/
def write (charset : Charset) (v : Value) : Except WriteFault String :=
  (literal charset 0 v).map String.ofList

end ActorSpec.Json
