import ActorSpec.Spec.Store

/-!
# Sessions with a spec store

A session is a store with the files around it. Its steps load specs, or the content of specs alone,
from files and from texts, clear the store, or change the files by other hands.
-/

namespace ActorSpec

inductive SpecStep where
  | load (path : FilePath)
  | loadContent (path : FilePath)
  | readText (text : String)
  | readContent (text : String)
  | clear
  | change (files : FileTree)

/-- What a step gives. -/
inductive SpecAnswer where
  | spec (result : Except SpecFault Spec)
  | content (result : Except SpecFault (Mapping Value))
  | done

structure SpecSession where
  store : SpecStore
  files : FileTree

namespace SpecSession

def load (s : SpecSession) (p : FilePath) : SpecLoad := s.store.load s.files p

def answer (s : SpecSession) : SpecStep → SpecAnswer
  | .load p => .spec (s.load p).result
  | .loadContent p => .content ((s.load p).result.map (·.content))
  | .readText text => .spec ((Spec.ofText text "content").mapError .content)
  | .readContent text => .content ((Spec.contentOf text "content").mapError .content)
  | .clear | .change _ => .done

/-- What a step logs. -/
def records (s : SpecSession) : SpecStep → List Record
  | .load p | .loadContent p => (s.load p).records
  | _ => []

def next (s : SpecSession) : SpecStep → SpecSession
  | .load p | .loadContent p => { s with store := (s.load p).store }
  | .readText _ | .readContent _ => s
  | .clear => { s with store := s.store.clear }
  | .change files => { s with files }

/-- The session after some steps. -/
def after (s : SpecSession) (steps : List SpecStep) : SpecSession := steps.foldl next s

end SpecSession

end ActorSpec
