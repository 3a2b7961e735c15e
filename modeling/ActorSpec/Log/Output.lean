import ActorSpec.Log.Console
import ActorSpec.Log.Record
import ActorSpec.Text.Case
import ActorSpec.Text.CharSet
import ActorSpec.Value.Display

/-!
# Output

What a run puts out is a sequence of printed texts and logged records. Printed text goes to the
standard output. A routing sends every record to one of the two streams, or to neither: those below
its level are dropped, and of the others those below its error level are progress messages and go to
the standard output, the rest to the standard error. A progress message that the standard output does
not take is dropped, too; the standard error takes everything.
-/

namespace ActorSpec

/-! ## Levels by name -/

namespace Level

def ofName? (name : String) : Option Level :=
  match name with
  | "CRITICAL" | "FATAL" => some critical
  | "ERROR" => some error
  | "WARNING" | "WARN" => some warning
  | "INFO" => some info
  | "DEBUG" => some debug
  | "NOTSET" => some 0
  | _ => none

/-- The level that the text of a value names, in any case and with blanks around it; the other level
for all that names none. -/
def named (v : Value) (other : Level) : Level :=
  if v.truthy then
    (ofName? (String.ofList (Text.upper (Text.strip v.display.toList)))).getD other
  else other

end Level

/-! ## Routing -/

inductive OutputStream where
  | standardOutput
  | standardError
deriving DecidableEq

/-- The thresholds for records. -/
structure Routing where
  level : Level
  errorLevel : Level
deriving DecidableEq

namespace Routing

/-- An error level below that of debug messages counts as it. -/
def between (level errorLevel : Level) : Routing := ⟨level, max errorLevel .debug⟩

/-- The routing for a log level and a print level that are given by name. -/
def named (logLevel printLevel : Value) (verbose : Bool) : Routing :=
  between (if verbose then .debug else .named logLevel .info) (.named printLevel .warning)

/-- The stream that a record goes to. Levels from zero down are never logged, and what is less urgent
than a debug message goes nowhere. -/
def stream? (routing : Routing) (level : Level) : Option OutputStream :=
  if level ≤ 0 ∨ level < routing.level then none
  else if routing.errorLevel ≤ level then some .standardError
  else if Level.debug ≤ level then some .standardOutput
  else none

end Routing

/-- The line of a record. -/
def Record.line (r : Record) : String :=
  r.channel ++ " - " ++ r.level.name ++ " - " ++ r.message ++ "\n"

/-! ## Sequences of output -/

inductive Output where
  | record (r : Record)
  | printed (text : String)

namespace Output

/-- The line of a record shows on a stream that it goes to. -/
def shows (console : Console) : OutputStream → String → Bool
  | .standardOutput, line => console.takes line
  | .standardError, _ => true

/-- What of an output appears on a stream. -/
def on (console : Console) (routing : Routing) (stream : OutputStream) : Output → Option String
  | .record r =>
    if routing.stream? r.level = some stream ∧ shows console stream r.line then some r.line else none
  | .printed text => if stream = .standardOutput then some text else none

/-- The whole text of a stream. -/
def text (console : Console) (routing : Routing) (stream : OutputStream) (output : List Output) :
    String :=
  String.join (output.filterMap (on console routing stream))

/-- The records of a sequence. -/
def records (output : List Output) : List Record :=
  output.filterMap fun
    | .record r => some r
    | .printed _ => none

end Output

end ActorSpec
