import ActorSpec.Text.Code
import ActorSpec.Text.Hex

/-!
# Texts as bytes

An encoding has no form for some code points, UTF-8 for the surrogates, and a text with one of them has
no bytes. Names of files are an exception: a byte of a name that is not UTF-8 is a surrogate of the
name's text.
-/

namespace ActorSpec.Text

/-- An encoding by its name, with the code points that it has a form for, those of ASCII among them, and
what it says of the others. -/
structure Encoding where
  name : String
  has : Nat → Bool
  has_ascii : ∀ n < 0x80, has n = true
  complaint : String

namespace Encoding

def ascii : Encoding where
  name := "ascii"
  has n := decide (n < 0x80)
  has_ascii _ hn := decide_eq_true hn
  complaint := "ordinal not in range(128)"

def utf8 : Encoding where
  name := "utf-8"
  has n := !isSurrogate n
  has_ascii n hn := by
    have hsmall : decide (0xD800 ≤ n) = false := decide_eq_false (by omega)
    rw [isSurrogate, hsmall, Bool.false_and, Bool.not_false]
  complaint := "surrogates not allowed"

end Encoding

/-- Why a text has no bytes: the encoding with what it says, the first code point that it has no form
for, with its place, and the number of such code points that stand there in a row. -/
structure EncodeFault where
  encoding : String
  complaint : String
  code : Nat
  position : Nat
  count : Nat
deriving DecidableEq

/-- A code point by its number, in as few digits as it takes. -/
def codeEscape (n : Nat) : String :=
  if n < 0x100 then "\\x" ++ String.ofList (hexDigits 2 n)
  else if n < 0x10000 then "\\u" ++ String.ofList (hexDigits 4 n)
  else "\\U" ++ String.ofList (hexDigits 8 n)

def EncodeFault.message (f : EncodeFault) : String :=
  "'" ++ f.encoding ++ "' codec can't encode "
    ++ (if f.count = 1 then
        "character '" ++ codeEscape f.code ++ "' in position " ++ toString f.position
      else
        "characters in position " ++ toString f.position ++ "-"
          ++ toString (f.position + f.count - 1))
    ++ ": " ++ f.complaint

/-- The first code point that has no form and is not let pass, with those behind it that have none. -/
def encodeFault? (e : Encoding) (passes : Nat → Bool) (s : String) : Option EncodeFault :=
  let ns := codes s.toList
  let clean := fun n => e.has n || passes n
  match ns.dropWhile clean with
  | [] => none
  | n :: rest =>
    some ⟨e.name, e.complaint, n, (ns.takeWhile clean).length, ((n :: rest).takeWhile (!e.has ·)).length⟩

/-- The bytes of a text without surrogates. -/
def bytes (s : String) : ByteArray :=
  (String.ofList ((codes s.toList).map Char.ofNat)).toUTF8

/-- The bytes of a text, if it has any. -/
def encode (s : String) : Except EncodeFault ByteArray :=
  match encodeFault? .utf8 (fun _ => false) s with
  | none => .ok (bytes s)
  | some fault => .error fault

/-- The surrogate stands for a byte in the name of a file. -/
def isNameByte (n : Nat) : Bool := decide (0xDC80 ≤ n) && decide (n ≤ 0xDCFF)

/-- The number of bytes of a code point in the name of a file. -/
def nameSize (n : Nat) : Nat :=
  if n < 0x80 ∨ isNameByte n then 1 else if n < 0x800 then 2 else if n < 0x10000 then 3 else 4

/-- The number of bytes of the code points of a name. -/
def namesSize : List Nat → Nat
  | [] => 0
  | n :: rest => nameSize n + namesSize rest

/-- The number of bytes of a name. -/
def nameLength (s : String) : Nat := namesSize (codes s.toList)

/-- The text that bytes stand for. -/
def decode? (content : ByteArray) : Option String :=
  (String.fromUTF8? content).map fun s => String.ofList (ofChars s.toList)

end ActorSpec.Text
