import ActorSpec.Command.Words
import ActorSpec.Settings

/-!
# Requests

A command line asks for one of three commands, or for help. The command is the first word that is
plain; all words behind it are its own.
-/

namespace ActorSpec

/-- How a report is printed. -/
inductive ReportFormat where
  | human
  | json
deriving DecidableEq

inductive Request where
  /-- Help on the program, or on one of its commands. -/
  | help (onCommand : Bool)
  | generateSchemas (spec : String) (base : Option String) (dryRun verbose : Bool)
  | generateInput (spec output : String) (dryRun verbose : Bool)
  | validate (spec : String) (format : ReportFormat)
deriving DecidableEq

namespace Command

def programName : String := "actor-schema-designer"

/-- A misuse of the program, or of one of its commands. -/
structure UsageFault where
  command : Option String
  misuse : Misuse

def UsageFault.message (f : UsageFault) : String :=
  programName ++ ((f.command.map (" " ++ ·)).getD "") ++ ": error: " ++ f.misuse.message

/-! ## Parameters of the commands -/

namespace Parameter

def help : Parameter := ⟨.help, some 'h', "help", .nothing⟩
def spec : Parameter := ⟨.spec, some 's', "spec", .text⟩
def base : Parameter := ⟨.base, none, "base-path", .text⟩
def output : Parameter := ⟨.output, some 'o', "output", .text⟩
def dryRun : Parameter := ⟨.dryRun, none, "dry-run", .nothing⟩
def verbose : Parameter := ⟨.verbose, some 'v', "verbose", .nothing⟩
def format : Parameter := ⟨.format, none, "format", .oneOf ["human", "json"]⟩

end Parameter

inductive Kind where
  | generateSchemas
  | generateInput
  | validate
deriving DecidableEq

namespace Kind

def all : List Kind := [.generateSchemas, .generateInput, .validate]

def name : Kind → String
  | .generateSchemas => "gen-schemas"
  | .generateInput => "gen-input"
  | .validate => "validate"

def ofName? (name : String) : Option Kind := all.find? (·.name = name)

def parameters : Kind → List Parameter
  | .generateSchemas => [.help, .spec, .base, .dryRun, .verbose]
  | .generateInput => [.help, .spec, .output, .dryRun, .verbose]
  | .validate => [.help, .spec, .format]

/-- The request for a command with arguments. -/
def request (settings : Settings) (a : Arguments) (kind : Kind) : Request :=
  let specPath := (a.operand? .spec).getD settings.specPath
  if a.isGiven .help then .help true
  else
    match kind with
    | .generateSchemas =>
      .generateSchemas specPath (a.operand? .base) (a.isGiven .dryRun) (a.isGiven .verbose)
    | .generateInput =>
      .generateInput specPath ((a.operand? .output).getD ("./" ++ settings.inputFile))
        (a.isGiven .dryRun) (a.isGiven .verbose)
    | .validate =>
      .validate specPath (if a.operand? .format = some "json" then .json else .human)

end Kind

/-! ## Reading -/

/-- The command with its words, and the words left over before it; no command where help is asked
for. -/
structure Split where
  command : Option (Kind × List String)
  leftOver : List String

namespace Split

/-- The command that a word names. -/
def ofName (name : String) (words : List String) : Except Misuse Split :=
  match Kind.ofName? name with
  | some kind => .ok ⟨some (kind, words), []⟩
  | none => .error (.notAChoice "command" name (Kind.all.map Kind.name))

def ofClasses : List (String × WordClass) → Except Misuse Split
  | [] => .error .noCommand
  | (word, .plain) :: rest => ofName word (rest.map (·.1))
  | (word, .separator) :: rest =>
    if rest.isEmpty then .error .noCommand else ofName word (rest.map (·.1))
  | (_, .parameter p attached) :: _ => do
    let r ← Reading.ofAttached [.help] p attached
    return ⟨none, r.leftOver⟩
  | (word, .unknown) :: rest => do
    let s ← ofClasses rest
    return { s with leftOver := word :: s.leftOver }

end Split

end Command

open Command in
/-- The request of a command line. Words left over are reported for the whole program, those before
the command first. -/
def Request.ofWords (settings : Settings) (words : List String) : Except UsageFault Request := do
  let classes ← (classify [.help] words).mapError (UsageFault.mk none)
  let split ← (Split.ofClasses classes).mapError (UsageFault.mk none)
  match split.command with
  | none => return .help false
  | some (kind, own) =>
    let a ← (Arguments.ofWords kind.parameters own).mapError (UsageFault.mk (some kind.name))
    let leftOver := split.leftOver ++ a.leftOver
    if leftOver.isEmpty || a.isGiven .help then return kind.request settings a
    else .error ⟨none, .leftOver leftOver⟩

end ActorSpec
