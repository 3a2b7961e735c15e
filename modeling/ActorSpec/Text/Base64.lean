/-!
# Base 64

Reads bytes from letters of six bits each. Whatever is no letter is passed over, except that padding
which completes a group of four ends the reading. A group of one letter gives no byte and is a fault, and
so is a last group of two or three without its padding.
-/

namespace ActorSpec.Text

/-- The six bits that a letter stands for. -/
def sixBits? (c : Char) : Option Nat :=
  if 'A' ≤ c ∧ c ≤ 'Z' then some (c.toNat - 'A'.toNat)
  else if 'a' ≤ c ∧ c ≤ 'z' then some (c.toNat - 'a'.toNat + 26)
  else if '0' ≤ c ∧ c ≤ '9' then some (c.toNat - '0'.toNat + 52)
  else if c = '+' then some 62
  else if c = '/' then some 63
  else none

/-- The byte that ends in the letter at a position of its group, made with what is left over of the
letter before. -/
def byteAt (position left bits : Nat) : List UInt8 :=
  match position with
  | 0 => []
  | 1 => [(left * 4 + bits / 16).toUInt8]
  | 2 => [(left * 16 + bits / 4).toUInt8]
  | _ => [(left * 64 + bits).toUInt8]

/-- The bits of a letter that belong to the next byte. -/
def leftAt (position bits : Nat) : Nat :=
  match position with
  | 0 => bits
  | 1 => bits % 16
  | 2 => bits % 4
  | _ => 0

/-- Reads on from a position in a group, with what is left over of the last letter and the number of
signs of padding behind it. -/
def base64From (position left padding : Nat) : List Char → Option (List UInt8)
  | [] => if position = 0 then some [] else none
  | c :: rest =>
    if c = '=' then
      if 2 ≤ position ∧ 4 ≤ position + padding + 1 then some []
      else base64From position left (if 2 ≤ position then padding + 1 else padding) rest
    else
      match sixBits? c with
      | none => base64From position left padding rest
      | some bits =>
        (base64From ((position + 1) % 4) (leftAt position bits) 0 rest).map
          (byteAt position left bits ++ ·)

/-- The bytes that a text stands for. -/
def base64? (cs : List Char) : Option (List UInt8) := base64From 0 0 0 cs

example : base64? "aGk=".toList = some [0x68, 0x69] := by decide

end ActorSpec.Text
