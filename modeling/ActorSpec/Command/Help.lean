import ActorSpec.Settings

/-!
# Help

The help of a command says which spec is read by default. The path of that spec is part of a text in
which a percent sign starts a conversion, as in `%(default)s`: it shows what a name stands for. So a
path with percent signs may be no help text at all.

A conversion without a name takes all the names together, as one value, unless another conversion has
taken the value before. Texts longer than one character, truth values, nothing and the rest are all the
kinds of value that there are.
-/

namespace ActorSpec

inductive HelpFault where
  | incompleteKey
  | incomplete
  | unknownName (name : String)
  | unsupported (code index : Nat)
  | noValue
  | notAWidth
  | notANumber (conversion : Char) (kind : String)
  | notACharacter
  /-- The standard output does not take the text, and this is what it says. -/
  | unprintable (complaint : String)
deriving DecidableEq

def HelpFault.message : HelpFault → String
  | .incompleteKey => "incomplete format key"
  | .incomplete => "incomplete format"
  | .unknownName name => Text.quoted name
  | .unsupported code index =>
    let shown := if 31 ≤ code ∧ code ≤ 126 then Char.ofNat code else '?'
    "unsupported format character '" ++ String.ofList [shown] ++ "' (0x"
      ++ String.ofList (Nat.toDigits 16 code) ++ ") at index " ++ toString index
  | .noValue => "not enough arguments for format string"
  | .notAWidth => "* wants int"
  | .notANumber conversion kind =>
    if ['e', 'E', 'f', 'F', 'g', 'G'].contains conversion then "must be real number, not " ++ kind
    else if ['o', 'x', 'X'].contains conversion then
      "%" ++ String.ofList [conversion] ++ " format: an integer is required, not " ++ kind
    else "%" ++ String.ofList [conversion] ++ " format: a real number is required, not " ++ kind
  | .notACharacter => "%c requires int or char"
  | .unprintable complaint => complaint

namespace Help

/-- A value, as far as conversions tell values apart. -/
inductive Argument where
  | flag
  | other (kind : String)
deriving DecidableEq

/-- The value of a name. -/
def argument? (name : String) : Option Argument :=
  match name with
  | "required" => some .flag
  | "dest" | "default" | "help" | "prog" => some (.other "str")
  | "option_strings" => some (.other "list")
  | "nargs" | "const" | "type" | "choices" | "metavar" => some (.other "NoneType")
  | "container" => some (.other "_ArgumentGroup")
  | _ => none

/-- What is being expanded: the code points that remain, how many have gone by, and the value that the
next conversion takes. -/
structure Expansion where
  rest : List Nat
  index : Nat
  argument : Option Argument

namespace Expansion

def drop (e : Expansion) (n : Nat) : Expansion :=
  { e with rest := e.rest.drop n, index := e.index + n }

def startsWith (e : Expansion) (c : Char) : Bool := e.rest.head? == some c.toNat

/-- The code points up to the parenthesis that closes a key. -/
def keyCodes? : Nat → List Nat → Option (List Nat)
  | _, [] => none
  | depth, n :: rest =>
    if n = ')'.toNat then
      match depth with
      | 0 => some []
      | depth + 1 => (keyCodes? depth rest).map (n :: ·)
    else (keyCodes? (if n = '('.toNat then depth + 1 else depth) rest).map (n :: ·)

/-- Reads a name, if there is one, and has its value ready. -/
def name (e : Expansion) : Except HelpFault Expansion :=
  if e.startsWith '(' then
    match keyCodes? 0 (e.drop 1).rest with
    | none => .error .incompleteKey
    | some key =>
      let text := String.ofList (Text.ofCodes key)
      match argument? text with
      | some argument => .ok { e.drop (key.length + 2) with argument := some argument }
      | none => .error (.unknownName text)
  else .ok e

/-- Takes the value that is ready. -/
def take (e : Expansion) : Except HelpFault (Argument × Expansion) :=
  match e.argument with
  | some argument => .ok (argument, { e with argument := none })
  | none => .error .noValue

def dropWhile (e : Expansion) (p : Nat → Bool) : Expansion := e.drop (e.rest.takeWhile p).length

def isDigit (n : Nat) : Bool := decide ('0'.toNat ≤ n) && decide (n ≤ '9'.toNat)

def isOneOf (cs : List Char) (n : Nat) : Bool := cs.any fun c => c.toNat == n

/-- A number, or an asterisk that takes one. -/
def size (e : Expansion) : Except HelpFault Expansion :=
  if e.startsWith '*' then do
    match ← e.take with
    | (.flag, e) => return e.drop 1
    | _ => throw .notAWidth
  else .ok (e.dropWhile isDigit)

/-- The letter of a conversion, and what it makes of the value. -/
def conversion (e : Expansion) : Except HelpFault Expansion :=
  match e.rest with
  | [] => .error .incomplete
  | code :: _ =>
    if code = '%'.toNat then .ok (e.drop 1)
    else do
      let (argument, e) ← e.take
      let kind? := match argument with
        | .flag => none
        | .other kind => some kind
      if isOneOf ['s', 'r', 'a'] code then return e.drop 1
      else if isOneOf ['d', 'i', 'u', 'o', 'x', 'X', 'e', 'E', 'f', 'F', 'g', 'G'] code then
        match kind? with
        | none => return e.drop 1
        | some kind => throw (.notANumber (Char.ofNat code) kind)
      else if code = 'c'.toNat then
        if kind?.isNone then return e.drop 1 else throw .notACharacter
      else throw (.unsupported code e.index)

/-- One conversion, its percent sign aside: a name, signs, a width, a precision, a letter without
meaning, and the letter that says how the value is shown. -/
def step (e : Expansion) : Except HelpFault Expansion := do
  let e ← e.name
  let e ← (e.dropWhile (isOneOf ['-', '+', ' ', '#', '0'])).size
  let e ← if e.startsWith '.' then (e.drop 1).size else pure e
  let e := if isOneOf ['h', 'l', 'L'] (e.rest.headD 0) then e.drop 1 else e
  e.conversion

/-- Expands all conversions. Each takes its percent sign at least. -/
def run : Nat → Expansion → Except HelpFault Unit
  | 0, _ => .ok ()
  | fuel + 1, e =>
    let e := e.dropWhile (· != '%'.toNat)
    if e.rest.isEmpty then .ok () else do run fuel (← (e.drop 1).step)

end Expansion

/-- What the help says of the spec, its conversions not expanded. -/
def specText (path : String) : String := "Path to spec file (default: " ++ path ++ ")"

/-- The help of a command can be shown. -/
def check (settings : Settings) : Except HelpFault Unit := do
  let text := specText settings.specPath
  let codes := Text.codes text.toList
  Expansion.run codes.length ⟨codes, 0, some (.other "dict")⟩
  match settings.console.fault? text with
  | none => return
  | some fault => throw (.unprintable fault.complaint)

end Help

end ActorSpec
