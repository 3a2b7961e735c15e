/-!
# Log records

A record has a level, the name of the channel that it was logged on, and a message.
-/

namespace ActorSpec

/-- Levels are numbers; six of them have names. -/
abbrev Level := Int

namespace Level

def debug : Level := 10
def info : Level := 20
def warning : Level := 30
def error : Level := 40
def critical : Level := 50

def name (level : Level) : String :=
  if level = 50 then "CRITICAL"
  else if level = 40 then "ERROR"
  else if level = 30 then "WARNING"
  else if level = 20 then "INFO"
  else if level = 10 then "DEBUG"
  else if level = 0 then "NOTSET"
  else "Level " ++ toString level

end Level

structure Record where
  level : Level
  channel : String
  message : String
deriving DecidableEq

/-- The parts of the program that log. -/
inductive Channel where
  | aggregate
  | datasetSchema
  | spec
  | output
  | project
  | command

def rootChannel : String := "actor_schema_designer"

def Channel.name : Channel → String
  | .aggregate => rootChannel ++ ".fields.aggregator"
  | .datasetSchema => rootChannel ++ ".generators.dataset_schema"
  | .spec => rootChannel ++ ".models.parsing.yaml_parser"
  | .output => rootChannel ++ ".file_io.json_writer"
  | .project => rootChannel ++ ".manager"
  | .command => rootChannel ++ ".cli.run_generate"

def Channel.record (c : Channel) (level : Level) (message : String) : Record :=
  ⟨level, c.name, message⟩

end ActorSpec
