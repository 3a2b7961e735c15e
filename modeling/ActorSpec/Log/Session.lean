import ActorSpec.Log.Output

/-!
# Sessions with a logger

All channels share one logger, since none has a level or handlers of its own. It prints through its
handlers, each of which puts what it takes on one stream. A session is the logger with all that has been
written so far. Its steps route the logger anew, log a record or print a text.
-/

namespace ActorSpec

/-! ## The logger -/

/-- A handler takes the records from its level on, and only those below its limit if it has one. -/
structure LogHandler where
  stream : OutputStream
  level : Level
  limit? : Option Level
deriving DecidableEq

def LogHandler.takes (h : LogHandler) (level : Level) : Bool :=
  decide (h.level ≤ level) && h.limit?.all fun limit => decide (level < limit)

structure Logger where
  level : Level
  handlers : List LogHandler
deriving DecidableEq

namespace Logger

/-- The logger of a process that has not routed it. -/
def unrouted : Logger := ⟨.warning, []⟩

/-- Records below the level of the logger are dropped, and so are all from level zero down. -/
def admits (logger : Logger) (level : Level) : Bool :=
  decide (0 < level) && decide (logger.level ≤ level)

/-- What is written for a record: its line, once for each handler that takes it. Without any handlers
it is the bare message, on the standard error, of warnings and what is more urgent. -/
def writes (logger : Logger) (r : Record) : List (OutputStream × String) :=
  if !logger.admits r.level then []
  else if logger.handlers.isEmpty then
    if Level.warning ≤ r.level then [(.standardError, r.message ++ "\n")] else []
  else (logger.handlers.filter (·.takes r.level)).map fun h => (h.stream, r.line)

def addHandler (logger : Logger) (h : LogHandler) : Logger :=
  { logger with handlers := logger.handlers ++ [h] }

/-- Removes all handlers, and adds one for progress messages and one for problems. -/
def route (logger : Logger) (routing : Routing) : Logger :=
  let cleared : Logger := { logger with level := routing.level, handlers := [] }
  (cleared.addHandler ⟨.standardOutput, .debug, some routing.errorLevel⟩).addHandler
    ⟨.standardError, routing.errorLevel, none⟩

end Logger

/-! ## Sessions -/

inductive LogStep where
  | route (routing : Routing)
  | put (output : Output)

/-- What has been written is in order, the earliest first. -/
structure LogSession where
  logger : Logger
  written : List (OutputStream × String)

namespace LogSession

def opened : LogSession := ⟨.unrouted, []⟩

/-- What an output writes. -/
def writes (s : LogSession) : Output → List (OutputStream × String)
  | .record r => s.logger.writes r
  | .printed text => [(.standardOutput, text)]

def next (s : LogSession) : LogStep → LogSession
  | .route routing => { s with logger := s.logger.route routing }
  | .put output => { s with written := s.written ++ s.writes output }

/-- The session after some steps. -/
def after (s : LogSession) (steps : List LogStep) : LogSession := steps.foldl next s

/-- The whole text of a stream. -/
def text (s : LogSession) (stream : OutputStream) : String :=
  String.join ((s.written.filter fun w => decide (w.1 = stream)).map (·.2))

end LogSession

end ActorSpec
