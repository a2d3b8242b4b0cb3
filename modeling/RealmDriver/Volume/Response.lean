import RealmDriver.Quota
import RealmDriver.Volume.Request

namespace RealmDriver

abbrev Topology := Dictionary

/-- A volume as the orchestrator is told about it. A capacity of zero is unknown. -/
structure Volume where
  id : String
  capacity : Nat := 0
  context : Dictionary := ∅
  topology : List Topology := []

structure VolumeMessage where
  id : String
  capacity : Nat
  context : Dictionary
  topology : List Topology

namespace Volume

def capacity? (v : Volume) : Option Nat := if v.capacity = 0 then none else some v.capacity

def reachableFrom (v : Volume) (t : Topology) : Volume := { v with topology := v.topology ++ [t] }

def toMessage (v : Volume) : Except Status VolumeMessage :=
  if Quota.maxBytes < v.capacity then
    .error ⟨.outOfRange, "Volume.capacity_bytes overflows int64"⟩
  else .ok { v with }

end Volume

structure ExpandResponse where
  capacity : Nat
  nodeExpansion : Bool
  deriving DecidableEq, Repr

def ExpandResponse.toMessage (r : ExpandResponse) : Except Status ExpandResponse :=
  if Quota.maxBytes < r.capacity then
    .error ⟨.outOfRange, "ControllerExpandVolumeResponse.capacity_bytes overflows int64"⟩
  else .ok r

structure Confirmed where
  capabilities : List Capability
  context : Option Dictionary := none
  parameters : Option Dictionary := none

/-- The answer to a question about capabilities: a confirmation, or words why there is none. -/
inductive ValidateResponse where
  | confirmed (c : Confirmed)
  | message (text : String)

structure ConfirmedMessage where
  context : Dictionary
  capabilities : List CapabilityMessage
  parameters : Dictionary

structure ValidateResponseMessage where
  confirmed : Option ConfirmedMessage
  message : String

namespace ValidateResponse

def toMessage : ValidateResponse → ValidateResponseMessage
  | confirmed c =>
    { confirmed := some
        { context := c.context.getD ∅
          capabilities := c.capabilities.map Capability.toMessage
          parameters := c.parameters.getD ∅ }
      message := "" }
  | message text => { confirmed := none, message := text }

end ValidateResponse

end RealmDriver
