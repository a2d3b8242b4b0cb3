import RealmDriver.Dictionary
import RealmDriver.Volume.Capability
import RealmDriver.Volume.Capacity
import RealmDriver.Volume.Source

namespace RealmDriver

def printedSecrets (secrets : Dictionary) : String :=
  Text.printedEntries (secrets.keys.map fun k ↦ (k, Text.quoted "SECRET"))

def printedDictionary {d : Dictionary} (l : d.Listing) : String :=
  Text.printedEntries (l.entries.map fun e ↦ (e.1, Text.quoted e.2))

structure CreateMessage where
  name : String := ""
  capacity : Option CapacityRange := none
  capabilities : List CapabilityMessage := []
  parameters : Dictionary := ∅
  secrets : Dictionary := ∅
  source : Option SourceMessage := none

structure CreateRequest where
  name : String
  capacity : Option CapacityRange
  capabilities : List Capability
  parameters : Dictionary
  secrets : Dictionary
  source : Option ContentSource

namespace CreateRequest

def ofMessage (m : CreateMessage) : Except Status CreateRequest := do
  if m.name = "" then throw (.invalidArgument "CreateVolumeRequest.name is empty")
  if m.capabilities.isEmpty then
    throw (.invalidArgument "Missing CreateVolumeRequest.volume_capabilities")
  let capabilities ← m.capabilities.mapM Capability.ofMessage
  let source ← ContentSource.ofMessage (m.source.getD .unset)
  pure { m with capabilities, source }

def printed (r : CreateRequest) (parameters : r.parameters.Listing := .sorted r.parameters) :
    String :=
  Text.printedRecord "CreateVolumeRequest"
    [("name", Text.quoted r.name),
      ("capacity_range", Text.printedOption CapacityRange.printed r.capacity),
      ("volume_capabilities", Text.printedList Capability.printed r.capabilities),
      ("parameters", printedDictionary parameters),
      ("secrets", printedSecrets r.secrets),
      ("volume_content_source", Text.printedOption ContentSource.printed r.source)]

end CreateRequest

structure DeleteMessage where
  volumeId : String := ""
  secrets : Dictionary := ∅

structure DeleteRequest where
  volumeId : String
  secrets : Dictionary

namespace DeleteRequest

def ofMessage (m : DeleteMessage) : Except Status DeleteRequest :=
  if m.volumeId = "" then .error (.invalidArgument "DeleteVolumeRequest.volume_id is empty")
  else .ok ⟨m.volumeId, m.secrets⟩

def printed (r : DeleteRequest) : String :=
  Text.printedRecord "DeleteVolumeRequest"
    [("volume_id", Text.quoted r.volumeId), ("secrets", printedSecrets r.secrets)]

end DeleteRequest

structure ValidateMessage where
  volumeId : String := ""
  context : Dictionary := ∅
  capabilities : List CapabilityMessage := []
  parameters : Dictionary := ∅
  secrets : Dictionary := ∅

structure ValidateRequest where
  volumeId : String
  context : Dictionary
  capabilities : List Capability
  parameters : Dictionary
  secrets : Dictionary

namespace ValidateRequest

def ofMessage (m : ValidateMessage) : Except Status ValidateRequest := do
  if m.volumeId = "" then
    throw (.invalidArgument "ValidateVolumeCapabilitiesRequest.volume_id is empty")
  if m.capabilities.isEmpty then
    throw (.invalidArgument "Missing ValidateVolumeCapabilitiesRequest.volume_capabilities")
  let capabilities ← m.capabilities.mapM Capability.ofMessage
  pure { m with capabilities }

def printed (r : ValidateRequest) (context : r.context.Listing := .sorted r.context)
    (parameters : r.parameters.Listing := .sorted r.parameters) : String :=
  Text.printedRecord "ValidateVolumeCapabilitiesRequest"
    [("volume_id", Text.quoted r.volumeId),
      ("volume_context", printedDictionary context),
      ("volume_capabilities", Text.printedList Capability.printed r.capabilities),
      ("parameters", printedDictionary parameters),
      ("secrets", printedSecrets r.secrets)]

end ValidateRequest

structure ExpandMessage where
  volumeId : String := ""
  capacity : Option CapacityRange := none
  secrets : Dictionary := ∅
  capability : Option CapabilityMessage := none

structure ExpandRequest where
  volumeId : String
  capacity : CapacityRange
  secrets : Dictionary
  capability : Option Capability

namespace ExpandRequest

def ofMessage (m : ExpandMessage) : Except Status ExpandRequest := do
  if m.volumeId = "" then
    throw (.invalidArgument "ControllerExpandVolumeRequest.volume_id is empty")
  let some capacity := m.capacity
    | throw (.invalidArgument "ControllerExpandVolumeRequest.capacity_range missing")
  let capability ← m.capability.mapM Capability.ofMessage
  pure { m with capacity, capability }

def printed (r : ExpandRequest) : String :=
  Text.printedRecord "ControllerExpandVolumeRequest"
    [("volume_id", Text.quoted r.volumeId),
      ("capacity_range", r.capacity.printed),
      ("secrets", printedSecrets r.secrets),
      ("volume_capability", Text.printedOption Capability.printed r.capability)]

end ExpandRequest

end RealmDriver
