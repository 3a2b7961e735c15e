import ActorSpec.Text.Code
import ActorSpec.Text.Hex
import ActorSpec.Text.Printable

/-!
# Quoted texts

A text as it stands inside a printed list or mapping: between single quotes, or between double quotes
when it holds a single quote and no double one, with escapes for the quote, the backslash and every
code point that is not printable. Bytes are quoted in the same way, with a letter in front.
-/

namespace ActorSpec.Text

def escapeNumber (n : Nat) : List Char :=
  if n < 0x100 then '\\' :: 'x' :: hexDigits 2 n
  else if n < 0x10000 then '\\' :: 'u' :: hexDigits 4 n
  else '\\' :: 'U' :: hexDigits 8 n

def escapeCode (shows : Nat → Bool) (quote : Char) (n : Nat) : List Char :=
  if n = quote.toNat ∨ n = '\\'.toNat then ['\\', Char.ofNat n]
  else if n = '\n'.toNat then ['\\', 'n']
  else if n = '\r'.toNat then ['\\', 'r']
  else if n = '\t'.toNat then ['\\', 't']
  else if shows n then ofCode n
  else escapeNumber n

def quoteFor (cs : List Char) : Char :=
  if cs.contains '\'' && !cs.contains '"' then '"' else '\''

def quoted (s : String) : String :=
  let q := quoteFor s.toList
  String.ofList (q :: (codes s.toList).flatMap (escapeCode isPrintable q) ++ [q])

/-- The bytes that are shown as they are. -/
def isPlainByte (n : Nat) : Bool := decide (0x20 ≤ n) && decide (n ≤ 0x7E)

def quotedBytes (content : List UInt8) : String :=
  let q := quoteFor (content.map fun b => Char.ofNat b.toNat)
  String.ofList
    ('b' :: q :: content.flatMap (fun b => escapeCode isPlainByte q b.toNat) ++ [q])

end ActorSpec.Text
