import RealmDriver.Files.Tree
import RealmDriver.Server.Endpoint
import RealmDriver.Service.Warning

namespace RealmDriver.Endpoint

def directoryMode : Nat := 0o755

def clear (e : Endpoint) : Action FileTree ServerError (List Warning) := do
  let removal : Action FileTree SystemFault Unit := Action.atomically (·.remove e.path)
  match ← removal.attempt with
  | .ok () => pure [.staleSocket e.path]
  | .error .notFound => pure []
  | .error fault => throw (.socket e.path fault)

def prepare (e : Endpoint) : Action FileTree ServerError (List Warning) := do
  let warnings ← e.clear
  if let some directory := Path.parent? e.path then
    (FileTree.createAll directoryMode directory).rephrase (.socket directory)
  (Action.atomically (·.bind e.path)).rephrase (.socket e.path)
  pure warnings

end RealmDriver.Endpoint
