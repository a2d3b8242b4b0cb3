import RealmDriver.Volume.Request

namespace RealmDriver

def requiredDirectory (field path : String) : Except Status String :=
  if path = "" then .error (.invalidArgument (field ++ " is empty"))
  else if path.toList.head? = some '/' then .ok path
  else .error (.invalidArgument (field ++ " is not absolute"))

structure PublishMessage where
  volumeId : String := ""
  target : String := ""
  capability : Option CapabilityMessage := none
  readonly : Bool := false
  secrets : Dictionary := ∅
  context : Dictionary := ∅

structure PublishRequest where
  volumeId : String
  target : String
  capability : Capability
  readonly : Bool
  secrets : Dictionary
  context : Dictionary

namespace PublishRequest

def ofMessage (m : PublishMessage) : Except Status PublishRequest := do
  if m.volumeId = "" then throw (.invalidArgument "NodePublishVolumeRequest.volume_id is empty")
  let target ← requiredDirectory "NodePublishVolumeRequest.target_path" m.target
  let some capability := m.capability
    | throw (.invalidArgument "NodePublishVolumeRequest.volume_capability missing")
  let capability ← Capability.ofMessage capability
  pure { m with target, capability }

def printed (r : PublishRequest) (context : r.context.Listing := .sorted r.context) : String :=
  Text.printedRecord "NodePublishVolumeRequest"
    [("volume_id", Text.quoted r.volumeId),
      ("target_path", Text.quoted r.target),
      ("volume_capability", r.capability.printed),
      ("readonly", toString r.readonly),
      ("secrets", printedSecrets r.secrets),
      ("volume_context", printedDictionary context)]

end PublishRequest

structure UnpublishMessage where
  volumeId : String := ""
  target : String := ""

structure UnpublishRequest where
  volumeId : String
  target : String

namespace UnpublishRequest

def ofMessage (m : UnpublishMessage) : Except Status UnpublishRequest := do
  if m.volumeId = "" then throw (.invalidArgument "NodeUnpublishVolumeRequest.volume_id is empty")
  let target ← requiredDirectory "NodeUnpublishVolumeRequest.target_path" m.target
  pure { m with target }

def printed (r : UnpublishRequest) : String :=
  Text.printedRecord "NodeUnpublishVolumeRequest"
    [("volume_id", Text.quoted r.volumeId), ("target_path", Text.quoted r.target)]

end UnpublishRequest

end RealmDriver
