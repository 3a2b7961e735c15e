import ActorSpec.Text.Utf8
import ActorSpec.Yaml.Scalar.Text
import ActorSpec.Yaml.Token

/-!
# From text to tokens

Columns open and close blocks, and a node turns out to be a key only when a colon follows it on its
line. So the place of a node that may be a key is remembered, and the token that says so is put in
front of it when the colon is met.
-/

namespace ActorSpec.Yaml

/-- A place where a key without a question mark may have started. -/
structure KeyPlace where
  /-- The number of tokens in front of the place. -/
  position : Nat
  /-- The block cannot go on unless this is a key. -/
  required : Bool
  index : Nat
  mark : Mark

structure Lexer where
  cursor : Cursor
  /-- What has been read, the last token first. -/
  tokens : List Token
  count : Nat
  indent : Int
  outerIndents : List Int
  flowLevel : Nat
  keyAllowed : Bool
  /-- The last possible key at each flow level. -/
  keys : List (Nat × KeyPlace)
  finished : Bool

namespace Lexer

def start (cs : List Char) : Lexer := ⟨.start cs, [], 0, -1, [], 0, true, [], false⟩

def inFlow (s : Lexer) : Bool := s.flowLevel != 0

def column (s : Lexer) : Int := s.cursor.mark.column

def emit (s : Lexer) (kind : TokenKind) (start stop : Mark) : Lexer :=
  { s with tokens := ⟨kind, start, stop⟩ :: s.tokens, count := s.count + 1 }

/-- Puts a token in front of the one at a position. -/
def emitAt (s : Lexer) (position : Nat) (kind : TokenKind) (mark : Mark) : Lexer :=
  let later := s.count - position
  { s with
    tokens := s.tokens.take later ++ ⟨kind, mark, mark⟩ :: s.tokens.drop later
    count := s.count + 1 }

/-- A token of so many characters at the cursor. -/
def emitNext (s : Lexer) (kind : TokenKind) (size : Nat) : Lexer :=
  let after := s.cursor.skip size
  { s.emit kind s.cursor.mark after.mark with cursor := after }

/-! ## Possible keys -/

/-- Gives the possible key of this flow level up. -/
def dropKey (s : Lexer) : Except Fault Lexer :=
  match s.keys.lookup s.flowLevel with
  | some place =>
    if place.required then .error .malformed
    else .ok { s with keys := s.keys.filter (·.1 != s.flowLevel) }
  | none => .ok s

/-- A key is over at the end of its line, or after 1024 characters. -/
def isStale (s : Lexer) (place : KeyPlace) : Bool :=
  place.mark.line != s.cursor.mark.line || 1024 < s.cursor.index - place.index

def dropStaleKeys (s : Lexer) : Except Fault Lexer :=
  if s.keys.any fun e => s.isStale e.2 && e.2.required then .error .malformed
  else .ok { s with keys := s.keys.filter (!s.isStale ·.2) }

/-- Remembers that the next token may start a key. -/
def noteKey (s : Lexer) : Except Fault Lexer :=
  if s.keyAllowed then do
    let s ← s.dropKey
    let place := ⟨s.count, !s.inFlow && s.indent == s.column, s.cursor.index, s.cursor.mark⟩
    return { s with keys := (s.flowLevel, place) :: s.keys }
  else .ok s

/-! ## Blocks -/

/-- Ends the blocks that are indented by more than a column. -/
def closeBlocks (column : Int) : List Int → Lexer → Lexer
  | [], s => s
  | outer :: rest, s =>
    if column < s.indent then
      closeBlocks column rest
        { s.emit .blockEnd s.cursor.mark s.cursor.mark with indent := outer, outerIndents := rest }
    else s

def unwind (column : Int) (s : Lexer) : Lexer :=
  if s.inFlow then s else closeBlocks column s.outerIndents s

/-- A block starts where a column lies to the right of the current indentation. -/
def deepen? (s : Lexer) (column : Int) : Option Lexer :=
  if s.indent < column then
    some { s with indent := column, outerIndents := s.indent :: s.outerIndents }
  else none

/-- Starts a block of a kind at the cursor, if one has to start there. -/
def openBlock (s : Lexer) (kind : TokenKind) : Except Fault Lexer :=
  if s.inFlow then .ok s
  else if s.keyAllowed then
    .ok (((s.deepen? s.column).map (·.emit kind s.cursor.mark s.cursor.mark)).getD s)
  else .error .malformed

/-! ## Single tokens -/

/-- The end of all blocks, in front of a directive or a document marker. -/
def closeDocument (s : Lexer) : Except Fault Lexer := do
  let s ← (s.unwind (-1)).dropKey
  return { s with keyAllowed := false }

def lexStreamEnd (s : Lexer) : Except Fault Lexer := do
  let s ← s.closeDocument
  return { s.emit .streamEnd s.cursor.mark s.cursor.mark with finished := true }

def lexMarker (s : Lexer) (kind : TokenKind) : Except Fault Lexer := do
  let s ← s.closeDocument
  return s.emitNext kind 3

def lexFlowStart (s : Lexer) (kind : TokenKind) : Except Fault Lexer := do
  let s ← s.noteKey
  return { s with flowLevel := s.flowLevel + 1, keyAllowed := true }.emitNext kind 1

def lexFlowEnd (s : Lexer) (kind : TokenKind) : Except Fault Lexer := do
  let s ← s.dropKey
  return { s with flowLevel := s.flowLevel - 1, keyAllowed := false }.emitNext kind 1

def lexFlowEntry (s : Lexer) : Except Fault Lexer := do
  let s ← { s with keyAllowed := true }.dropKey
  return s.emitNext .flowEntry 1

def lexBlockEntry (s : Lexer) : Except Fault Lexer := do
  let s ← s.openBlock .blockSequenceStart
  let s ← { s with keyAllowed := true }.dropKey
  return s.emitNext .blockEntry 1

def lexKey (s : Lexer) : Except Fault Lexer := do
  let s ← s.openBlock .blockMappingStart
  let s ← { s with keyAllowed := !s.inFlow }.dropKey
  return s.emitNext .key 1

/-- A colon after a possible key makes it one, and starts a mapping where that is the first of a
block. -/
def lexValue (s : Lexer) : Except Fault Lexer := do
  match s.keys.lookup s.flowLevel with
  | some place =>
    let s := { s with keys := s.keys.filter (·.1 != s.flowLevel) }
    let s := s.emitAt place.position .key place.mark
    let s := if s.inFlow then s
      else ((s.deepen? place.mark.column).map
        (·.emitAt place.position .blockMappingStart place.mark)).getD s
    return { s with keyAllowed := false }.emitNext .value 1
  | none =>
    let s ← s.openBlock .blockMappingStart
    let s ← { s with keyAllowed := !s.inFlow }.dropKey
    return s.emitNext .value 1

/-! ## Tokens with a text -/

/-- The name behind an asterisk or an ampersand. -/
def anchorName (c : Cursor) : Except Fault (String × Cursor) :=
  let (name, c) := c.next.span isWord
  if name.isEmpty then .error .malformed
  else if isSpace c.peek || ['?', ':', ',', ']', '\x7d', '%', '@', '\x60'].contains c.peek then
    .ok (String.ofList name, c)
  else .error .malformed

def lexAnchor (s : Lexer) (kind : String → TokenKind) : Except Fault Lexer := do
  let s ← s.noteKey
  let (name, after) ← anchorName s.cursor
  return { s.emit (kind name) s.cursor.mark after.mark with cursor := after, keyAllowed := false }

def isUriChar (c : Char) : Bool :=
  isWord c || [';', '/', '?', ':', '@', '&', '=', '+', '$', ',', '.', '!', '~', '*', '\'', '(',
    ')', '[', ']'].contains c

/-- The bytes of a run of escapes, each a percent sign and two hexadecimal digits. -/
def uriBytes : Nat → Cursor → Except Fault (List UInt8 × Cursor)
  | 0, c => .ok ([], c)
  | fuel + 1, c =>
    if c.peek = '%' then
      match Text.hexValue? (c.peekAt 1), Text.hexValue? (c.peekAt 2) with
      | some a, some b => do
        let (bytes, c) ← uriBytes fuel (c.skip 3)
        return (UInt8.ofNat (16 * a + b) :: bytes, c)
      | _, _ => .error .malformed
    else .ok ([], c)

def uriParts : Nat → Cursor → Except Fault (List Char × Cursor)
  | 0, c => .ok ([], c)
  | fuel + 1, c =>
    if c.peek = '%' then do
      let (bytes, c) ← uriBytes (c.rest.length + 1) c
      let some text := Text.decode? ⟨bytes.toArray⟩ | throw .malformed
      let (more, c) ← uriParts fuel c
      return (text.toList ++ more, c)
    else
      let (run, c) := c.span isUriChar
      if run.isEmpty then .ok ([], c)
      else do
        let (more, c) ← uriParts fuel c
        return (run ++ more, c)

/-- A part of a tag that is not empty. -/
def uri (c : Cursor) : Except Fault (String × Cursor) := do
  let (text, c) ← uriParts (c.rest.length + 1) c
  if text.isEmpty then throw .malformed
  return (String.ofList text, c)

/-- One exclamation mark, or a word between two. -/
def tagHandle (c : Cursor) : Except Fault (String × Cursor) :=
  if c.peek != '!' then .error .malformed
  else if c.peekAt 1 = ' ' then .ok ("!", c.next)
  else
    let (word, c) := c.next.span isWord
    if c.peek = '!' then .ok (String.ofList ('!' :: word ++ ['!']), c.next) else .error .malformed

def tagName (c : Cursor) : Except Fault (TagName × Cursor) := do
  let (name, c) ←
    if c.peekAt 1 = '<' then do
      let (suffix, c) ← uri (c.skip 2)
      if c.peek != '>' then throw .malformed
      pure (⟨none, suffix⟩, c.next)
    else if isSpace (c.peekAt 1) then pure (⟨none, "!"⟩, c.next)
    else do
      let word := c.next.rest.takeWhile fun ch => ch != ' ' && !isBreakOrEnd ch
      let (handle, c) ← if word.contains '!' then tagHandle c else pure ("!", c.next)
      let (suffix, c) ← uri c
      pure ((⟨some handle, suffix⟩ : TagName), c)
  if c.peek = ' ' || isBreakOrEnd c.peek then return (name, c)
  throw .malformed

def lexTag (s : Lexer) : Except Fault Lexer := do
  let s ← s.noteKey
  let (name, after) ← tagName s.cursor
  return { s.emit (.tag name) s.cursor.mark after.mark with cursor := after, keyAllowed := false }

def lexPlain (s : Lexer) : Except Fault Lexer := do
  let s ← s.noteKey
  let (text, broken, after) := plainText s.inFlow (s.indent + 1) s.cursor
  return { s.emit (.scalar (String.ofList text) true) s.cursor.mark after.mark with
    cursor := after, keyAllowed := broken }

def lexQuoted (s : Lexer) : Except Fault Lexer := do
  let s ← s.noteKey
  let (text, after) ← quotedText s.cursor
  return { s.emit (.scalar (String.ofList text) false) s.cursor.mark after.mark with
    cursor := after, keyAllowed := false }

def lexBlock (s : Lexer) (folded : Bool) : Except Fault Lexer := do
  let s ← { s with keyAllowed := true }.dropKey
  let (text, after) ← blockText folded s.indent s.cursor
  return { s.emit (.scalar (String.ofList text) false) s.cursor.mark after.mark with
    cursor := after }

/-! ## Directives -/

def number (c : Cursor) : Except Fault (Nat × Cursor) :=
  let (digits, c) := c.span Char.isDigit
  if digits.isEmpty then .error .malformed
  else if Numeral.maxDigits < digits.length then .error (.longInteger digits.length)
  else .ok (Nat.ofDigitChars 10 digits 0, c)

def versionDirective (c : Cursor) : Except Fault (Directive × Cursor) := do
  let (major, c) ← number c.dropSpaces
  if c.peek != '.' then throw .malformed
  let (_, c) ← number c.next
  if c.peek = ' ' || isBreakOrEnd c.peek then return (.version major, c)
  throw .malformed

def tagDirective (c : Cursor) : Except Fault (Directive × Cursor) := do
  let (handle, c) ← tagHandle c.dropSpaces
  if c.peek != ' ' then throw .malformed
  let (expansion, c) ← uri c.dropSpaces
  if c.peek = ' ' || isBreakOrEnd c.peek then return (.tag handle expansion, c)
  throw .malformed

def directive (c : Cursor) : Except Fault (Directive × Cursor) := do
  let (name, c) := c.next.span isWord
  if name.isEmpty || !(c.peek = ' ' || isBreakOrEnd c.peek) then throw .malformed
  let (d, c) ← match String.ofList name with
    | "YAML" => versionDirective c
    | "TAG" => tagDirective c
    | _ => pure (.other, c.dropWhile (!isBreakOrEnd ·))
  return (d, ← ignoredLine c)

def lexDirective (s : Lexer) : Except Fault Lexer := do
  let s ← s.closeDocument
  let (d, after) ← directive s.cursor
  return { s.emit (.directive d) s.cursor.mark after.mark with cursor := after }

/-! ## The next token -/

/-- Spaces, comments and breaks; a break outside of flow collections lets a key follow. -/
def dropGap (flow : Bool) : Nat → Bool → Cursor → Bool × Cursor
  | 0, allowed, c => (allowed, c)
  | fuel + 1, allowed, c =>
    let c := c.dropSpaces.dropComment
    match c.lineBreak? with
    | some (_, c) => dropGap flow fuel (allowed || !flow) c
    | none => (allowed, c)

def toNextToken (s : Lexer) : Lexer :=
  let c := if s.cursor.index = 0 ∧ s.cursor.peek = '\uFEFF' then s.cursor.next else s.cursor
  let (allowed, c) := dropGap s.inFlow (c.rest.length + 1) s.keyAllowed c
  { s with cursor := c, keyAllowed := allowed }

/-- Characters that start no plain scalar, at least not without something behind them. -/
def isIndicator (c : Char) : Bool :=
  ['-', '?', ':', ',', '[', ']', '{', '}', '#', '&', '*', '!', '|', '>', '\'', '"', '%', '@',
    '\x60'].contains c

def startsPlain (s : Lexer) : Bool :=
  let ch := s.cursor.peek
  (!isSpace ch && !isIndicator ch) ||
    (!isSpace (s.cursor.peekAt 1) && (ch = '-' || (!s.inFlow && (ch = '?' || ch = ':'))))

def lexContent (s : Lexer) : Except Fault Lexer :=
  let spaced := isSpace (s.cursor.peekAt 1)
  match s.cursor.peek with
  | '[' => s.lexFlowStart .flowSequenceStart
  | '{' => s.lexFlowStart .flowMappingStart
  | ']' => s.lexFlowEnd .flowSequenceEnd
  | '}' => s.lexFlowEnd .flowMappingEnd
  | ',' => s.lexFlowEntry
  | '*' => s.lexAnchor .reference
  | '&' => s.lexAnchor .anchor
  | '!' => s.lexTag
  | '\'' | '"' => s.lexQuoted
  | ch =>
    if ch = '-' ∧ spaced then s.lexBlockEntry
    else if ch = '?' ∧ (s.inFlow || spaced) then s.lexKey
    else if ch = ':' ∧ (s.inFlow || spaced) then s.lexValue
    else if ch = '|' ∧ !s.inFlow then s.lexBlock false
    else if ch = '>' ∧ !s.inFlow then s.lexBlock true
    else if s.startsPlain then s.lexPlain
    else .error .malformed

/-- Reads one token, with those that it opens or closes. -/
def lexNext (s : Lexer) : Except Fault Lexer := do
  let s ← s.toNextToken.dropStaleKeys
  let s := s.unwind s.column
  let atLineStart := s.cursor.mark.column = 0
  if isEnd s.cursor.peek then s.lexStreamEnd
  else if s.cursor.peek = '%' ∧ atLineStart then s.lexDirective
  else if s.cursor.atDocumentMarker ∧ atLineStart then
    s.lexMarker (if s.cursor.peek = '-' then .documentStart else .documentEnd)
  else s.lexContent

/-- The tokens in front of the first that may still turn out to start a key. -/
def settled (s : Lexer) : List Token :=
  let places := (s.keys.map (·.2)).filter (!s.isStale ·)
  s.tokens.reverse.take (places.foldl (fun least place => min least place.position) s.count)

/-- Every round but the last reads at least one character. In front of a fault, only settled tokens are
handed out. -/
def run : Nat → Lexer → List Token × Option Fault
  | 0, s => (s.tokens.reverse, none)
  | fuel + 1, s =>
    match s.lexNext with
    | .error fault => (s.settled, some fault)
    | .ok next => if next.finished then (next.tokens.reverse, none) else run fuel next

end Lexer

/-- The tokens of a text up to its end or to the first fault. -/
def tokens (text : String) : List Token × Option Fault :=
  let cs := text.toList
  if (Text.codes cs).all isReadable then (Lexer.start cs).run (cs.length + 2) else ([], some .malformed)

end ActorSpec.Yaml
