import ActorSpec.Text.CaseTable

/-!
# Upper and lower case

Full case mapping of a text: a character may become several, and a capital sigma becomes a final one
at the end of a word. Both work on the text they are given and know nothing of what surrounds it.
-/

namespace ActorSpec.Text

/-- What one character becomes: its expansion, its shifted image, or itself. -/
def mapCase (expansions : List (Nat × List Nat)) (runs : List CaseRun) (c : Char) : List Char :=
  match expansions.lookup c.toNat, runs.find? (·.contains c.toNat) with
  | some image, _ => image.map Char.ofNat
  | none, some r => [Char.ofNat (c.toNat + r.shift).toNat]
  | none, none => [c]

def upperChar (c : Char) : List Char := mapCase upperExpansions upperRuns c

def lowerChar (c : Char) : List Char := mapCase lowerExpansions lowerRuns c

def upper (cs : List Char) : List Char := cs.flatMap upperChar

/-- The next character that is not looked through has a case. -/
def meetsCased (cs : List Char) : Bool :=
  (cs.dropWhile caseIgnorable.contains).head?.any cased.contains

/-- Lower case of `cs`, whose preceding characters are `before`, the nearest first. -/
def lowerAfter (before : List Char) : List Char → List Char
  | [] => []
  | 'Σ' :: rest =>
    (if meetsCased before && !meetsCased rest then 'ς' else 'σ') :: lowerAfter ('Σ' :: before) rest
  | c :: rest => lowerChar c ++ lowerAfter (c :: before) rest

def lower (cs : List Char) : List Char := lowerAfter [] cs

end ActorSpec.Text
