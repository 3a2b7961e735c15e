/-!
# Paths into a spec

A path is the text `/a/b/0`: a slash and an escaped token for every step. A tilde is written `~0` and
a slash `~1`, so different lists of tokens have different paths.
-/

namespace ActorSpec.SpecPath

def escapeChar (c : Char) : List Char :=
  if c = '~' then ['~', '0'] else if c = '/' then ['~', '1'] else [c]

def escape (token : String) : String := String.ofList (token.toList.flatMap escapeChar)

def push (path token : String) : String := path ++ "/" ++ escape token

/-- Appends tokens to a path. -/
def join (base : String) (tokens : List String) : String := tokens.foldl push base

/-- A path from the root of the `schemas` section as one from the root of the spec. -/
def inSchemas (path : String) : String := "/schemas" ++ path

end ActorSpec.SpecPath
