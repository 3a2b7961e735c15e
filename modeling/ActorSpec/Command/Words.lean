import ActorSpec.Text.CharSet
import ActorSpec.Text.Quoted

/-!
# Words of a command line

Parameters are given by a dash and a letter or by two dashes and a name. A name may be cut short as
long as it fits one parameter only. The operand of a parameter is the next word, or it is attached to
the same word, behind an equals sign or directly behind the letter. Letters of parameters without
operand may share one dash. After two dashes alone every word is plain.

Words are classified first, all of them, and then read from left to right. Those that belong to no
parameter are left over.
-/

namespace ActorSpec.Command

/-! ## Parameters -/

inductive Key where
  | help
  | spec
  | base
  | output
  | dryRun
  | verbose
  | format
deriving DecidableEq

/-- What a parameter takes. -/
inductive Operand where
  | nothing
  | text
  | oneOf (choices : List String)

structure Parameter where
  key : Key
  letter : Option Char
  long : String
  operand : Operand

namespace Parameter

/-- The ways to write a parameter. -/
def spellings (p : Parameter) : List String :=
  (p.letter.map fun c => String.ofList ['-', c]).toList ++ ["--" ++ p.long]

def label (p : Parameter) : String := String.intercalate "/" p.spellings

end Parameter

/-- The parameter that a word spells exactly. -/
def spelled? (ps : List Parameter) (word : String) : Option Parameter :=
  ps.find? fun p => p.spellings.contains word

/-! ## Misuse -/

/-- What is wrong with the words of a command line. -/
inductive Misuse where
  | ambiguous (word : String) (spellings : List String)
  | noOperand (label : String)
  | unwantedOperand (label operand : String)
  | notAChoice (label operand : String) (choices : List String)
  | noCommand
  | leftOver (words : List String)

def Misuse.message : Misuse → String
  | .ambiguous word spellings =>
    "ambiguous option: " ++ word ++ " could match " ++ String.intercalate ", " spellings
  | .noOperand label => "argument " ++ label ++ ": expected one argument"
  | .unwantedOperand label operand =>
    "argument " ++ label ++ ": ignored explicit argument " ++ Text.quoted operand
  | .notAChoice label operand choices =>
    "argument " ++ label ++ ": invalid choice: " ++ Text.quoted operand ++ " (choose from "
      ++ String.intercalate ", " (choices.map Text.quoted) ++ ")"
  | .noCommand => "the following arguments are required: command"
  | .leftOver words => "unrecognized arguments: " ++ String.intercalate " " words

/-! ## Classes of words -/

/-- What stands in the same word behind the spelling of a parameter. -/
inductive Attached where
  | nothing
  | directly (text : List Char)
  | behindEquals (text : String)

inductive WordClass where
  | plain
  | separator
  | unknown
  | parameter (p : Parameter) (attached : Attached)

/-- A word before and behind its first equals sign, if there is one. -/
def splitEquals (word : String) : Option (String × String) :=
  match word.toList.span (· != '=') with
  | (front, _ :: back) => some (String.ofList front, String.ofList back)
  | (_, []) => none

/-- A dash and a decimal numeral, a line feed at the end aside. Such a word is plain. -/
def isNegativeNumeral (word : String) : Bool :=
  let isDigit := fun c => (Text.digitValue? c).isSome
  match word.toList with
  | '-' :: digits =>
    let digits := if digits.getLast? = some '\n' then digits.dropLast else digits
    match digits.span isDigit with
    | (whole, []) => !whole.isEmpty
    | (_, '.' :: fraction) => !fraction.isEmpty && fraction.all isDigit
    | _ => false
  | _ => false

/-- The spellings that a word may be short for, or begins with. -/
def candidates (ps : List Parameter) (word : String) : List (String × Parameter × Attached) :=
  match word.toList with
  | '-' :: '-' :: _ =>
    let (front, attached) := match splitEquals word with
      | some (front, back) => (front, Attached.behindEquals back)
      | none => (word, Attached.nothing)
    ps.flatMap fun p =>
      (p.spellings.filter fun s => front.toList.isPrefixOf s.toList).map fun s => (s, p, attached)
  | '-' :: c :: rest =>
    (ps.filter (·.letter = some c)).map fun p => (String.ofList ['-', c], p, .directly rest)
  | _ => []

/-- The class of a word before the separator. -/
def classOf (ps : List Parameter) (word : String) : Except Misuse WordClass :=
  match word.toList with
  | '-' :: _ :: _ =>
    match spelled? ps word with
    | some p => .ok (.parameter p .nothing)
    | none =>
      match (splitEquals word).bind fun (front, back) => (spelled? ps front).map (·, back) with
      | some (p, back) => .ok (.parameter p (.behindEquals back))
      | none =>
        match candidates ps word with
        | [(_, p, attached)] => .ok (.parameter p attached)
        | [] =>
          if isNegativeNumeral word || word.toList.contains ' ' then .ok .plain else .ok .unknown
        | several => .error (.ambiguous word (several.map (·.1)))
  | _ => .ok .plain

/-- The words of a command line with their classes. -/
def classify (ps : List Parameter) : List String → Except Misuse (List (String × WordClass))
  | [] => .ok []
  | "--" :: rest => .ok (("--", .separator) :: rest.map (·, .plain))
  | word :: rest => do
    let c ← classOf ps word
    let classes ← classify ps rest
    return (word, c) :: classes

/-! ## Reading -/

/-- A parameter with its operand, empty if it takes none. -/
structure Given where
  key : Key
  operand : String

def Parameter.given (p : Parameter) (operand : String) : Except Misuse Given :=
  match p.operand with
  | .oneOf choices =>
    if choices.contains operand then .ok ⟨p.key, operand⟩
    else .error (.notAChoice p.label operand choices)
  | _ => .ok ⟨p.key, operand⟩

def Parameter.takesNothing (p : Parameter) : Bool :=
  match p.operand with
  | .nothing => true
  | _ => false

/-- What one word gives: parameters, perhaps one that still waits for its operand, and perhaps a
remainder that is left over. -/
structure Reading where
  given : List Given
  waiting : Option Parameter
  leftOver : List String

namespace Reading

def alone (p : Parameter) : Reading :=
  if p.takesNothing then ⟨[⟨p.key, ""⟩], none, []⟩ else ⟨[], some p, []⟩

def ofOperand (p : Parameter) (operand : String) : Except Misuse Reading := do
  return ⟨[← p.given operand], none, []⟩

def behindEquals (p : Parameter) (operand : String) : Except Misuse Reading :=
  if p.takesNothing then .error (.unwantedOperand p.label operand) else ofOperand p operand

/-- Reads the text directly behind the letter of a parameter: its operand, or more letters. -/
def directly (ps : List Parameter) (p : Parameter) : List Char → Except Misuse Reading
  | [] => .ok (alone p)
  | c :: rest =>
    let text := String.ofList (c :: rest)
    if !p.takesNothing then ofOperand p text
    else if c = '-' then .error (.unwantedOperand p.label text)
    else
      match ps.find? (·.letter = some c) with
      | none => .ok ⟨[⟨p.key, ""⟩], none, ["-" ++ text]⟩
      | some q => do
        let more ← match rest with
          | '=' :: operand => behindEquals q (String.ofList operand)
          | _ => directly ps q rest
        return { more with given := ⟨p.key, ""⟩ :: more.given }

def ofAttached (ps : List Parameter) (p : Parameter) : Attached → Except Misuse Reading
  | .nothing => .ok (alone p)
  | .directly text => directly ps p text
  | .behindEquals operand => behindEquals p operand

end Reading

/-- The parameters given on a command line, in order, and the words left over. -/
structure Arguments where
  given : List Given
  leftOver : List String

namespace Arguments

def add (r : Reading) (a : Arguments) : Arguments where
  given := r.given ++ a.given
  leftOver := r.leftOver ++ a.leftOver

/-- Reads classified words, the first one as the operand of a parameter if one waits for it. A call for
help ends the reading. -/
def ofClasses (ps : List Parameter) :
    Option Parameter → List (String × WordClass) → Except Misuse Arguments
  | some q, (operand, .plain) :: rest => do
    let g ← q.given operand
    let a ← ofClasses ps none rest
    return { a with given := g :: a.given }
  | some q, _ => .error (.noOperand q.label)
  | none, [] => .ok ⟨[], []⟩
  | none, (_, .parameter p attached) :: rest => do
    let r ← Reading.ofAttached ps p attached
    if r.given.any (·.key = .help) then return ⟨r.given, r.leftOver⟩
    return add r (← ofClasses ps r.waiting rest)
  | none, (word, _) :: rest => do
    let a ← ofClasses ps none rest
    return { a with leftOver := word :: a.leftOver }

def ofWords (ps : List Parameter) (words : List String) : Except Misuse Arguments := do
  ofClasses ps none (← classify ps words)

/-- The operand of a parameter; the last time counts. -/
def operand? (a : Arguments) (key : Key) : Option String :=
  (a.given.reverse.find? (·.key = key)).map (·.operand)

def isGiven (a : Arguments) (key : Key) : Bool := a.given.any (·.key = key)

end Arguments

end ActorSpec.Command
