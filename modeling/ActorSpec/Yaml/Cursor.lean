import ActorSpec.Text.Code

/-!
# Cursors

A place in a text that is read from left to right: what remains, and how many characters, lines and
columns have gone by. All readers of YAML text move a cursor.

The end reads as a NUL, a character that no readable text holds.
-/

namespace ActorSpec.Yaml

/-- A line and a column, both counted from zero. -/
structure Mark where
  line : Nat
  column : Nat
deriving DecidableEq

/-! ## Classes of characters -/

def isBreak (c : Char) : Bool :=
  c = '\n' || c = '\r' || c = '\u0085' || c = '\u2028' || c = '\u2029'

def isEnd (c : Char) : Bool := c = '\x00'

def isBlank (c : Char) : Bool := c = ' ' || c = '\t'

def isBreakOrEnd (c : Char) : Bool := isBreak c || isEnd c

/-- Ends a line or separates words. -/
def isSpace (c : Char) : Bool := isBlank c || isBreakOrEnd c

/-- Characters that names of anchors, directives and tag handles are made of. -/
def isWord (c : Char) : Bool := c.isAlphanum || c = '-' || c = '_'

/-- Code points that a stream may hold at all. -/
def isReadable (n : Nat) : Bool :=
  n == 0x9 || n == 0xA || n == 0xD || n == 0x85 || (0x20 ≤ n && n ≤ 0x7E) ||
    (0xA0 ≤ n && n ≤ 0xD7FF) || (0xE000 ≤ n && n ≤ 0xFFFD) || 0x10000 ≤ n

/-! ## Moving -/

structure Cursor where
  rest : List Char
  index : Nat
  mark : Mark

namespace Cursor

def start (cs : List Char) : Cursor := ⟨cs, 0, ⟨0, 0⟩⟩

def peek (c : Cursor) : Char := c.rest.headD '\x00'

/-- The character so many places ahead. -/
def peekAt (c : Cursor) (n : Nat) : Char := (c.rest.drop n).headD '\x00'

/-- A break starts a new line, the two characters of a carriage return and a line feed together. A byte
order mark takes no column, and a pair of characters that stands for one code point takes one. -/
def advanceMark (m : Mark) (ch : Char) (following : List Char) : Mark :=
  if isBreak ch && !(ch = '\r' && following.head? = some '\n') then ⟨m.line + 1, 0⟩
  else if ch = '\uFEFF' ∨ ch = Text.lead then m
  else ⟨m.line, m.column + 1⟩

def next (c : Cursor) : Cursor :=
  match c.rest with
  | [] => c
  | ch :: rest =>
    ⟨rest, if ch = Text.lead then c.index else c.index + 1, advanceMark c.mark ch rest⟩

def skip : Nat → Cursor → Cursor
  | 0, c => c
  | n + 1, c => skip n c.next

/-- The longest run of characters of a class, and the cursor behind it. -/
def span (p : Char → Bool) (c : Cursor) : List Char × Cursor :=
  let run := c.rest.takeWhile p
  (run, c.skip run.length)

def dropWhile (p : Char → Bool) (c : Cursor) : Cursor := (c.span p).2

def dropSpaces (c : Cursor) : Cursor := c.dropWhile (· = ' ')

/-- A line break at the cursor, as the character that it stands for, and the cursor behind it. -/
def lineBreak? (c : Cursor) : Option (Char × Cursor) :=
  match c.rest with
  | '\r' :: '\n' :: _ => some ('\n', c.skip 2)
  | ch :: _ =>
    if ch = '\u2028' ∨ ch = '\u2029' then some (ch, c.next)
    else if isBreak ch then some ('\n', c.next)
    else none
  | [] => none

/-- The cursor is at three dashes or dots that stand alone. -/
def atDocumentMarker (c : Cursor) : Bool :=
  (c.rest.take 3 == ['-', '-', '-'] || c.rest.take 3 == ['.', '.', '.']) && isSpace (c.peekAt 3)

/-- Skips a comment, if there is one. -/
def dropComment (c : Cursor) : Cursor :=
  if c.peek = '#' then c.dropWhile (!isBreakOrEnd ·) else c

end Cursor

end ActorSpec.Yaml
