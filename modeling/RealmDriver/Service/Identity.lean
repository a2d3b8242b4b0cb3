import RealmDriver.Dictionary

namespace RealmDriver

/-- Whether volumes can be expanded, and if so, while they are in use or only at rest. -/
inductive Expansion where
  | none
  | offline
  | online
  deriving DecidableEq, Repr

structure Identity where
  name : String
  version : String
  manifest : Dictionary := ∅
  /-- Whether volumes cannot be reached from everywhere. -/
  accessibility : Bool := false
  expansion : Expansion := .none
  ready : Bool := true

inductive PluginCapability where
  | service (number : Nat)
  | volumeExpansion (number : Nat)
  deriving DecidableEq, Repr

namespace PluginCapability

def controllerService : PluginCapability := service 1

def accessibilityConstraints : PluginCapability := service 2

def ofExpansion : Expansion → List PluginCapability
  | .none => []
  | .online => [volumeExpansion 1]
  | .offline => [volumeExpansion 2]

def ofIdentity (i : Identity) (controller : Bool) : List PluginCapability :=
  (if controller then [controllerService] else [])
    ++ (if i.accessibility then [accessibilityConstraints] else [])
    ++ ofExpansion i.expansion

end PluginCapability

end RealmDriver
