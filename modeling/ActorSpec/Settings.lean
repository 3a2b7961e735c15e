import ActorSpec.Log.Output

/-!
# Settings

Settings come from variables of the environment. A variable that is set to the empty text is set. The
console that the program runs at is one of the settings.
-/

namespace ActorSpec

/-- The variables of an environment with their values. -/
abbrev Environment := List (String × String)

namespace Environment

/-- The variable for a setting. -/
def variableOf (setting : String) : String := "ACTOR_SCHEMA_DESIGNER_" ++ setting

/-- A setting, or the other text where its variable is not set. -/
def setting (env : Environment) (name other : String) : String :=
  (env.lookup (variableOf name)).getD other

/-- The name of the user on the platform. -/
def user? (env : Environment) : Option String := env.lookup "APIFY_USERNAME"

end Environment

structure Settings where
  logLevel : String
  printLevel : String
  cacheEnabled : Bool
  specPath : String
  actorDirectory : String
  inputFile : String
  console : Console

namespace Settings

/-- The variables that settings are read from. -/
def variableNames : List String :=
  ["LOG_LEVEL", "PRINT_LEVEL", "CACHE_ENABLED", "SPEC", "ACTOR_DIR"].map Environment.variableOf

def ofEnvironment (env : Environment) (console : Console) : Settings where
  logLevel := env.setting "LOG_LEVEL" "INFO"
  printLevel := env.setting "PRINT_LEVEL" "WARNING"
  cacheEnabled := Text.lower (env.setting "CACHE_ENABLED" "false").toList = "true".toList
  specPath := env.setting "SPEC" "./websy-spec.yml"
  actorDirectory := env.setting "ACTOR_DIR" ".actor"
  inputFile := "INPUT.json"
  console

def routing (s : Settings) (verbose : Bool) : Routing :=
  .named (.str s.logLevel) (.str s.printLevel) verbose

end Settings

end ActorSpec
