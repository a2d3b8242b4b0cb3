import RealmDriver.Rpc.Status

namespace RealmDriver

inductive Failure where
  /-- The request, its parameters or its secrets are not acceptable. -/
  | invalidArgument (text : String)
  /-- There is a volume of that name, and it does not fit the request. -/
  | conflict (text : String)
  | volumeNotFound (text : String)
  /-- The volume cannot be used in the way asked for. -/
  | exceedsCapabilities (text : String)
  /-- An inline volume that lives no longer than its workload. -/
  | ephemeral (text : String)
  | internal (text : String)
  /-- A status that is passed on as it is. -/
  | other (status : Status)
  deriving DecidableEq, Repr

namespace Failure

def status : Failure → Status
  | invalidArgument text => ⟨.invalidArgument, text⟩
  | conflict text => ⟨.alreadyExists, text⟩
  | volumeNotFound text => ⟨.notFound, text⟩
  | exceedsCapabilities text => ⟨.failedPrecondition, text⟩
  | ephemeral text => ⟨.failedPrecondition, text⟩
  | internal text => ⟨.internal, text⟩
  | other status => status

def message? : Failure → Option String
  | invalidArgument text => some ("Invalid argument: " ++ text)
  | conflict text => some ("Volume conflict: " ++ text)
  | volumeNotFound text => some ("Volume does not exist: " ++ text)
  | exceedsCapabilities text => some ("Exceeds capabilities: " ++ text)
  | ephemeral text => some ("Ephemeral volumes are not supported: " ++ text)
  | internal text => some ("Internal error: " ++ text)
  | other _ => none

end Failure

end RealmDriver
