import RealmDriver.Files.Fault
import RealmDriver.Files.Path

namespace RealmDriver

inductive ServerError where
  | invalidEndpoint (text : String)
  | socket (path : Path) (fault : SystemFault)
  deriving DecidableEq, Repr

def ServerError.message : ServerError → String
  | .invalidEndpoint text =>
    s!"Invalid endpoint '{text}', only unix:// endpoints are supported"
  | .socket path fault => s!"Failed to prepare socket {path}: {fault.message}"

structure Endpoint where
  path : Path
  deriving DecidableEq, Repr

namespace Endpoint

def scheme : String := "unix://"

def text (e : Endpoint) : String := scheme ++ e.path

def ofText (s : String) : Except ServerError Endpoint :=
  let path := String.ofList (s.toList.drop scheme.length)
  if scheme.toList.isPrefixOf s.toList ∧ Path.isAbsolute path then .ok ⟨path⟩
  else .error (.invalidEndpoint s)

end Endpoint

end RealmDriver
