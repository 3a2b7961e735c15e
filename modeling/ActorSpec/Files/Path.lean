/-!
# Paths of files

A path is a root and its steps, without empty ones and without single dots; two dots stay. So two texts
that differ only in those are one path. Two slashes in front are a root of their own, although they lead
to where one does.
-/

namespace ActorSpec

/-- What a path starts with. -/
inductive FilePath.Root where
  | none
  | slash
  | slashes
deriving DecidableEq

structure FilePath where
  root : FilePath.Root
  steps : List String
deriving DecidableEq

namespace FilePath

/-- More than two slashes are as good as one. -/
def Root.ofChars : List Char → Root
  | '/' :: '/' :: '/' :: _ => slash
  | '/' :: '/' :: _ => slashes
  | '/' :: _ => slash
  | _ => none

def Root.text : Root → String
  | none => ""
  | slash => "/"
  | slashes => "//"

def Root.absolute : Root → Bool
  | none => false
  | slash | slashes => true

def ofText (text : String) : FilePath where
  root := .ofChars text.toList
  steps := ((text.toList.splitOn '/').map String.ofList).filter fun step => step != "" && step != "."

/-- The path of the working directory, as the start of relative paths. -/
def here : FilePath := ⟨.none, []⟩

def text (p : FilePath) : String :=
  if p.root.absolute then p.root.text ++ String.intercalate "/" p.steps
  else if p.steps.isEmpty then "." else String.intercalate "/" p.steps

/-- The path without its last step. -/
def parent (p : FilePath) : FilePath := { p with steps := p.steps.dropLast }

/-- A path below another, unless it stands for itself. -/
def join (p q : FilePath) : FilePath :=
  if q.root.absolute then q else { p with steps := p.steps ++ q.steps }

def child (p : FilePath) (name : String) : FilePath := p.join (.ofText name)

/-! ## Relative to a directory -/

/-- Takes two dots as one step back, from the steps gone so far, the last one first. -/
def normalise : List String → List String → List String
  | gone, [] => gone.reverse
  | gone, step :: rest =>
    if step = ".." then normalise (gone.drop 1) rest else normalise (step :: gone) rest

/-- Two directories without the steps that they have in common at the front. -/
def withoutCommon : List String → List String → List String × List String
  | a :: as, b :: bs => if a = b then withoutCommon as bs else (a :: as, b :: bs)
  | as, bs => (as, bs)

/-- The shortest path to `p` from the absolute directory with the steps `cwd`. -/
def relativeTo (cwd : List String) (p : FilePath) : FilePath :=
  let target := normalise [] (if p.root.absolute then p.steps else cwd ++ p.steps)
  let (up, down) := withoutCommon (normalise [] cwd) target
  ⟨.none, up.map (fun _ => "..") ++ down⟩

end FilePath

end ActorSpec
