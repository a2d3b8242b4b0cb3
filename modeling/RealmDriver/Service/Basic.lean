import RealmDriver.Controller.Creation
import RealmDriver.Node.Info
import RealmDriver.Node.Request
import RealmDriver.Service.Abilities
import RealmDriver.Service.Identity

namespace RealmDriver

def unsupported (call : String) : Action σ Failure α := throw (.other (.unsupported call))

structure Service (σ : Type) where
  identity : Identity
  controllerAbilities : Nat := 0
  nodeAbilities : Nat := 0
  createVolume : CreateRequest → Action σ Failure Creation.Created :=
    fun _ ↦ unsupported "CreateVolume"
  deleteVolume : DeleteRequest → Action σ Failure Unit := fun _ ↦ unsupported "DeleteVolume"
  validateCapabilities : ValidateRequest → Action σ Failure ValidateResponse
  expandVolume : ExpandRequest → Action σ Failure ExpandResponse :=
    fun _ ↦ unsupported "ControllerExpandVolume"
  publishVolume : PublishRequest → Action σ Failure Unit
  unpublishVolume : UnpublishRequest → Action σ Failure Unit
  nodeInfo : Action σ Failure (NodeInfo × List Warning)

end RealmDriver
