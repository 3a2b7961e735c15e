import ActorSpec.Text.Code
import ActorSpec.Text.Hex
import ActorSpec.Yaml.Cursor
import ActorSpec.Yaml.Fault

/-!
# The texts of scalars

How the written form of a scalar becomes its text: lines are folded, quotes and escapes are resolved,
and the indentation of a block is taken off. Every reader starts at the first character of its scalar
and ends behind it.

Each loop moves the cursor or ends, so the number of remaining characters bounds its rounds.
-/

namespace ActorSpec.Yaml

/-- A break between two lines with text becomes a space, unless further breaks follow or it is one
that is kept. -/
def foldBreak (first : Char) (more : List Char) : List Char :=
  if first ≠ '\n' then first :: more else if more.isEmpty then [' '] else more

/-! ## Plain scalars -/

/-- Indicators of flow collections, which end a plain scalar inside one. -/
def isFlowIndicator (c : Char) : Bool := [',', '[', ']', '{', '}'].contains c

/-- The characters from here to the next space or to an indicator that ends a plain scalar. -/
def plainRun (flow : Bool) : List Char → List Char
  | [] => []
  | c :: rest =>
    let following := rest.headD '\x00'
    if isSpace c || (c = ':' && (isSpace following || (flow && isFlowIndicator following)))
        || (flow && (c = '?' || isFlowIndicator c)) then []
    else c :: plainRun flow rest

/-- Breaks and spaces up to the next line with text; nothing when a document ends in between. -/
def plainBreaks : Nat → Cursor → Option (List Char) × Cursor
  | 0, c => (some [], c)
  | fuel + 1, c =>
    if c.peek = ' ' then plainBreaks fuel c.next
    else
      match c.lineBreak? with
      | none => (some [], c)
      | some (b, c) =>
        if c.atDocumentMarker then (none, c)
        else
          let (more, c) := plainBreaks fuel c
          (more.map (b :: ·), c)

/-- What stands between two words of a plain scalar, and whether it holds a break. -/
def plainGap (c : Cursor) : List Char × Bool × Cursor :=
  let (spaces, c) := c.span (· = ' ')
  match c.lineBreak? with
  | none => (spaces, false, c)
  | some (b, c) =>
    if c.atDocumentMarker then ([], true, c)
    else
      let (more, c) := plainBreaks c.rest.length c
      (((more.map (foldBreak b)).getD []), true, c)

/-- The words of a plain scalar behind `gap`, and whether the last gap holds a break. -/
def plainWords (flow : Bool) (indent : Int) :
    Nat → List Char → Bool → Cursor → List Char × Bool × Cursor
  | 0, _, broken, c => ([], broken, c)
  | fuel + 1, gap, broken, c =>
    let run := if c.peek = '#' then [] else plainRun flow c.rest
    if run.isEmpty then ([], broken, c)
    else
      let (nextGap, nextBroken, after) := plainGap (c.skip run.length)
      if nextGap.isEmpty || after.peek = '#' || (!flow && decide ((after.mark.column : Int) < indent))
      then (gap ++ run, nextBroken, after)
      else
        let (more, broken, c) := plainWords flow indent fuel nextGap nextBroken after
        (gap ++ run ++ more, broken, c)

/-- A plain scalar whose continuation lines are indented by at least `indent`. -/
def plainText (flow : Bool) (indent : Int) (c : Cursor) : List Char × Bool × Cursor :=
  plainWords flow indent (c.rest.length + 1) [] false c

/-! ## Quoted scalars -/

/-- The character of an escape with one letter. -/
def escape? (c : Char) : Option Char :=
  match c with
  | '0' => some '\x00'
  | 'a' => some '\x07'
  | 'b' => some '\x08'
  | 't' | '\t' => some '\t'
  | 'n' => some '\n'
  | 'v' => some '\x0b'
  | 'f' => some '\x0c'
  | 'r' => some '\r'
  | 'e' => some '\x1b'
  | ' ' => some ' '
  | '"' => some '"'
  | '\\' => some '\\'
  | '/' => some '/'
  | 'N' => some '\u0085'
  | '_' => some '\u00A0'
  | 'L' => some '\u2028'
  | 'P' => some '\u2029'
  | _ => none

/-- The number of digits that the letter of an escape by number asks for. -/
def escapeWidth? (c : Char) : Option Nat :=
  match c with
  | 'x' => some 2
  | 'u' => some 4
  | 'U' => some 8
  | _ => none

/-- The breaks of the empty lines at the cursor. -/
def quotedBreaks : Nat → Cursor → Except Fault (List Char × Cursor)
  | 0, c => .ok ([], c)
  | fuel + 1, c =>
    if c.atDocumentMarker then .error .malformed
    else
      let c := c.dropWhile isBlank
      match c.lineBreak? with
      | none => .ok ([], c)
      | some (b, c) => do
        let (more, c) ← quotedBreaks fuel c
        return (b :: more, c)

/-- The characters of an escape whose backslash has been read. -/
def escape (c : Cursor) : Except Fault (List Char × Cursor) :=
  match escape? c.peek, escapeWidth? c.peek with
  | some ch, _ => .ok ([ch], c.next)
  | none, some width =>
    let digits := c.next.rest.take width
    match Text.hexNumber? digits with
    | some code =>
      if digits.length < width then .error .malformed
      else if 0x110000 ≤ code then .error (.character code)
      else .ok (Text.ofCode code, c.skip (width + 1))
    | none => .error .malformed
  | none, none =>
    match c.lineBreak? with
    | some (_, c) => quotedBreaks c.rest.length c
    | none => .error .malformed

/-- Characters up to the next blank, break or closing quote. -/
def quotedRun (double : Bool) : Nat → Cursor → Except Fault (List Char × Cursor)
  | 0, _ => .error .malformed
  | fuel + 1, c => do
    let (run, c) := c.span fun ch => !isSpace ch && ch != '\'' && ch != '"' && ch != '\\'
    let ch := c.peek
    if !double && ch = '\'' && c.peekAt 1 = '\'' then
      let (more, c) ← quotedRun double fuel (c.skip 2)
      return (run ++ '\'' :: more, c)
    else if (double && ch = '\'') || (!double && (ch = '"' || ch = '\\')) then
      let (more, c) ← quotedRun double fuel c.next
      return (run ++ ch :: more, c)
    else if double && ch = '\\' then
      let (escaped, c) ← escape c.next
      let (more, c) ← quotedRun double fuel c
      return (run ++ escaped ++ more, c)
    else return (run, c)

/-- The blanks and breaks between two runs of a quoted scalar. -/
def quotedGap (c : Cursor) : Except Fault (List Char × Cursor) :=
  let (blanks, c) := c.span isBlank
  if isEnd c.peek then .error .malformed
  else
    match c.lineBreak? with
    | none => .ok (blanks, c)
    | some (b, c) => do
      let (more, c) ← quotedBreaks (c.rest.length + 1) c
      return (foldBreak b more, c)

/-- The rest of a quoted scalar up to its closing quote, which is not read. -/
def quotedRest (quote : Char) : Nat → Cursor → Except Fault (List Char × Cursor)
  | 0, _ => .error .malformed
  | fuel + 1, c =>
    if c.peek = quote then .ok ([], c)
    else do
      let (gap, c) ← quotedGap c
      let (run, c) ← quotedRun (quote = '"') (c.rest.length + 1) c
      let (more, c) ← quotedRest quote fuel c
      return (gap ++ run ++ more, c)

/-- A scalar between quotes, from the opening to behind the closing one. -/
def quotedText (c : Cursor) : Except Fault (List Char × Cursor) := do
  let quote := c.peek
  let c := c.next
  let (run, c) ← quotedRun (quote = '"') (c.rest.length + 1) c
  let (more, c) ← quotedRest quote (c.rest.length + 1) c
  return (run ++ more, c.next)

/-! ## Block scalars -/

/-- What becomes of the breaks at the end of a block: all but the first are dropped unless the header
says to keep or to strip them. -/
inductive Chomping where
  | clip
  | keep
  | strip
deriving DecidableEq

def chompingOf? (c : Char) : Option Chomping :=
  if c = '+' then some .keep else if c = '-' then some .strip else none

/-- An indentation indicator is a digit other than zero. -/
def indentOf? (c : Char) : Option Nat :=
  if c.isDigit then some (c.toNat - '0'.toNat) else none

/-- The indicators of a block header, in either order. -/
def blockIndicators (c : Cursor) : Except Fault ((Chomping × Option Nat) × Cursor) := do
  let (chomping, indent, c) :=
    match chompingOf? c.peek, indentOf? c.peek with
    | some chomping, _ =>
      match indentOf? c.next.peek with
      | some n => (chomping, some n, c.skip 2)
      | none => (chomping, none, c.next)
    | none, some n =>
      match chompingOf? c.next.peek with
      | some chomping => (chomping, some n, c.skip 2)
      | none => (.clip, some n, c.next)
    | none, none => (.clip, none, c)
  if indent = some 0 then throw .malformed
  if c.peek = ' ' || isBreakOrEnd c.peek then return ((chomping, indent), c)
  throw .malformed

/-- The rest of a line that may hold a comment and nothing else. -/
def ignoredLine (c : Cursor) : Except Fault Cursor :=
  let c := c.dropSpaces.dropComment
  if isBreakOrEnd c.peek then .ok ((c.lineBreak?.map (·.2)).getD c) else .error .malformed

/-- Leading empty lines, and the greatest column that they and the first line with text reach. -/
def leadingLines : Nat → Nat → Cursor → List Char × Nat × Cursor
  | 0, widest, c => ([], widest, c)
  | fuel + 1, widest, c =>
    if c.peek = ' ' then leadingLines fuel (max widest c.next.mark.column) c.next
    else
      match c.lineBreak? with
      | none => ([], widest, c)
      | some (b, c) =>
        let (more, widest, c) := leadingLines fuel widest c
        (b :: more, widest, c)

/-- Spaces up to the column `indent`. -/
def dropIndent : Nat → Nat → Cursor → Cursor
  | 0, _, c => c
  | fuel + 1, indent, c =>
    if c.mark.column < indent ∧ c.peek = ' ' then dropIndent fuel indent c.next else c

/-- The breaks of the empty lines in front of a line that is indented by `indent`. -/
def blockBreaks (indent : Nat) : Nat → Cursor → List Char × Cursor
  | 0, c => ([], c)
  | fuel + 1, c =>
    let c := dropIndent indent indent c
    match c.lineBreak? with
    | none => ([], c)
    | some (b, c) =>
      let (more, c) := blockBreaks indent fuel c
      (b :: more, c)

/-- The lines of a block behind `breaks`, with the last break and those after it. -/
def blockLines (folded : Bool) (indent : Nat) :
    Nat → List Char → Cursor → List Char × List Char × List Char × Cursor
  | 0, breaks, c => ([], [], breaks, c)
  | fuel + 1, breaks, c =>
    if c.mark.column = indent ∧ !isEnd c.peek then
      let flush := !isBlank c.peek
      let (line, c) := c.span (!isBreakOrEnd ·)
      let (last, c) := match c.lineBreak? with
        | some (b, c) => ([b], c)
        | none => ([], c)
      let (more, c) := blockBreaks indent (c.rest.length + 1) c
      if c.mark.column = indent ∧ !isEnd c.peek then
        let joint :=
          if folded && last == ['\n'] && flush && !isBlank c.peek then
            (if more.isEmpty then [' '] else [])
          else last
        let (text, last, tail, c) := blockLines folded indent fuel more c
        (breaks ++ line ++ joint ++ text, last, tail, c)
      else (breaks ++ line, last, more, c)
    else ([], [], breaks, c)

/-- A block scalar from its indicator on, in a block that is indented by `parent`. -/
def blockText (folded : Bool) (parent : Int) (c : Cursor) : Except Fault (List Char × Cursor) := do
  let ((chomping, increment), c) ← blockIndicators c.next
  let c ← ignoredLine c
  let least := (max (parent + 1) 1).toNat
  let (breaks, indent, c) :=
    match increment with
    | some n =>
      let indent := least + n - 1
      let (breaks, c) := blockBreaks indent (c.rest.length + 1) c
      (breaks, indent, c)
    | none =>
      let (breaks, widest, c) := leadingLines (c.rest.length + 1) 0 c
      (breaks, max least widest, c)
  let (text, last, tail, c) := blockLines folded indent (c.rest.length + 1) breaks c
  return (text ++ (if chomping = .strip then [] else last)
    ++ (if chomping = .keep then tail else []), c)

end ActorSpec.Yaml
