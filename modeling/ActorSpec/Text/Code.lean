/-!
# Texts as code points

A text may hold surrogates, which escapes by number spell out and which `Char` leaves out. So a
surrogate is held as a pair of characters: U+D7FF, which is not assigned, and behind it one of the
private use area. A U+D7FF of the text itself is held as such a pair, too, and everything else is held
as it is.

The pairs are in the order of the code points that they stand for, and neither half has a case, is
blank, or means anything to a syntax. So most rules for texts need not know of them. Those that count,
show or encode single code points work on `codes`.
-/

namespace ActorSpec.Text

/-- The first half of a pair. -/
def lead : Char := '\uD7FF'

/-- The characters that a code point is held as. -/
def ofCode (n : Nat) : List Char :=
  if 0xD7FF ≤ n ∧ n < 0xE000 then [lead, Char.ofNat (n + 0x801)] else [Char.ofNat n]

/-- The code points of a text. -/
def codes : List Char → List Nat
  | [] => []
  | [c] => [c.toNat]
  | c :: d :: rest =>
    if c = lead ∧ 0xE000 ≤ d.toNat ∧ d.toNat ≤ 0xE800 then (d.toNat - 0x801) :: codes rest
    else c.toNat :: codes (d :: rest)

/-- The text with these code points. -/
def ofCodes (ns : List Nat) : List Char := ns.flatMap ofCode

/-- A text of characters none of which is a pair. -/
def ofChars (cs : List Char) : List Char := ofCodes (cs.map Char.toNat)

def isHighSurrogate (n : Nat) : Bool := decide (0xD800 ≤ n) && decide (n < 0xDC00)

def isLowSurrogate (n : Nat) : Bool := decide (0xDC00 ≤ n) && decide (n < 0xE000)

def isSurrogate (n : Nat) : Bool := decide (0xD800 ≤ n) && decide (n < 0xE000)

/-- The character that a high and a low surrogate stand for. -/
def joinSurrogates (high low : Nat) : Nat := 0x10000 + (high - 0xD800) * 0x400 + (low - 0xDC00)

end ActorSpec.Text
