import ActorSpec.Lint.Store

/-!
# Sessions with a schema store

A session is a schema store with the files around it. Its steps load schemas by name, clear the store, or
change the files by other hands.
-/

namespace ActorSpec

inductive SchemaStep where
  | load (name : String)
  | clear
  | change (files : FileTree)

structure SchemaSession where
  store : SchemaStore
  files : FileTree

namespace SchemaSession

def load (s : SchemaSession) (name : String) : SchemaLoad := s.store.load s.files name

def next (s : SchemaSession) : SchemaStep → SchemaSession
  | .load name => { s with store := (s.load name).store }
  | .clear => { s with store := s.store.clear }
  | .change files => { s with files }

/-- The session after some steps. -/
def after (s : SchemaSession) (steps : List SchemaStep) : SchemaSession := steps.foldl next s

end SchemaSession

end ActorSpec
