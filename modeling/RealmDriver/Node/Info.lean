import RealmDriver.Volume.Response

namespace RealmDriver

/-- The name of a node and where it stands. No bound is set on the number of its volumes. -/
structure NodeInfo where
  id : String
  topology : Option Topology := none

namespace NodeInfo

def longestId : Nat := 192

def toMessage (i : NodeInfo) : Except Status NodeInfo :=
  if longestId < i.id.utf8ByteSize then
    .error ⟨.internal, "NodeGetInfoResponse.node_id exceeds 192 bytes"⟩
  else .ok i

end NodeInfo

end RealmDriver
