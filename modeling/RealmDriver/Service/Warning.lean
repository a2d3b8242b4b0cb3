import RealmDriver.Files.Path
import RealmDriver.Node.Label

namespace RealmDriver

inductive Warning where
  /-- The realm encrypts a new volume otherwise than it was asked to. -/
  | encryption (volume requested reported : String)
  /-- The orchestrator could not be told that a node is ready. -/
  | label (node : String) (error : PatchError)
  /-- A socket of an earlier run was in the way. -/
  | staleSocket (path : Path)
  deriving DecidableEq, Repr

namespace Warning

def message : Warning → String
  | encryption .. => "realm reports a different encryption mode than requested"
  | label _ error => "failed to set node readiness label: " ++ error.message
  | staleSocket _ => "removed stale socket file"

def fields : Warning → List (String × String)
  | encryption volume requested reported =>
    [("volume", volume), ("requested", requested), ("reported", reported)]
  | label node _ => [("node", node)]
  | staleSocket path => [("path", path)]

end Warning

end RealmDriver
