import RealmDriver.Rpc.Delivery
import RealmDriver.Service.Basic

namespace RealmDriver

inductive Mode where
  | controller
  | node
  | all
  deriving DecidableEq, Repr

namespace Mode

def servesController (m : Mode) : Bool := m ≠ node

def servesNode (m : Mode) : Bool := m ≠ controller

end Mode

inductive Call where
  | pluginInfo
  | pluginCapabilities
  | probe
  | create (m : CreateMessage)
  | delete (m : DeleteMessage)
  | validate (m : ValidateMessage)
  | expand (m : ExpandMessage)
  | controllerCapabilities
  | publish (m : PublishMessage)
  | unpublish (m : UnpublishMessage)
  | nodeInfo
  | nodeCapabilities
  | named (name : String)

namespace Call

def refusedByController : List String :=
  ["ListVolumes", "GetCapacity", "ControllerGetVolume", "ControllerPublishVolume",
    "ControllerUnpublishVolume"]

def refusedByNode : List String :=
  ["NodeStageVolume", "NodeUnstageVolume", "NodeGetVolumeStats", "NodeExpandVolume"]

def isServed (mode : Mode) : Call → Bool
  | pluginInfo | pluginCapabilities | probe => true
  | create _ | delete _ | validate _ | expand _ | controllerCapabilities => mode.servesController
  | publish _ | unpublish _ | nodeInfo | nodeCapabilities => mode.servesNode
  | named name =>
    (mode.servesController && refusedByController.contains name)
      || (mode.servesNode && refusedByNode.contains name)

end Call

inductive Reply where
  | pluginInfo (name version : String) (manifest : Dictionary)
  | pluginCapabilities (capabilities : List PluginCapability)
  | ready (ready : Bool)
  | volume (m : VolumeMessage)
  | validated (m : ValidateResponseMessage)
  | expanded (m : ExpandResponse)
  | nodeInfo (m : NodeInfo)
  | abilities (numbers : List Nat)
  | done

/-- The outcome of a call, with the warnings that came up on the way to it. -/
structure Answer where
  result : Except Status Reply
  warnings : List Warning := []

def Answer.delivered (a : Answer) : Answer := { a with result := a.result.mapError Status.delivered }

namespace Service

variable {σ : Type}

/-- Hands a request to its handler, if its message was in order, and puts the outcome into a
message. -/
def respond (request : Except Status ρ) (handler : ρ → Action σ Failure α)
    (reply : α → Except Status Reply) (warnings : α → List Warning) : StateM σ Answer := fun s ↦
  match request with
  | .error status => ({ result := .error status }, s)
  | .ok r =>
    match (handler r).outcome s with
    | (.ok a, s) => ({ result := reply a, warnings := warnings a }, s)
    | (.error f, s) => ({ result := .error f.status }, s)

def handle (s : Service σ) (mode : Mode) (call : Call) : StateM σ Answer :=
  if !call.isServed mode then pure { result := .error .unimplemented }
  else match call with
    | .pluginInfo =>
      pure { result := .ok (.pluginInfo s.identity.name s.identity.version s.identity.manifest) }
    | .pluginCapabilities =>
      let capabilities := PluginCapability.ofIdentity s.identity mode.servesController
      pure { result := .ok (.pluginCapabilities capabilities) }
    | .probe => pure { result := .ok (.ready s.identity.ready) }
    | .create m =>
      respond (CreateRequest.ofMessage m) s.createVolume (·.volume.toMessage.map .volume)
        (·.warnings)
    | .delete m =>
      respond (DeleteRequest.ofMessage m) s.deleteVolume (fun _ ↦ .ok .done) fun _ ↦ []
    | .validate m =>
      respond (ValidateRequest.ofMessage m) s.validateCapabilities
        (fun r ↦ .ok (.validated r.toMessage)) fun _ ↦ []
    | .expand m =>
      respond (ExpandRequest.ofMessage m) s.expandVolume (·.toMessage.map .expanded) fun _ ↦ []
    | .controllerCapabilities =>
      let numbers := Ability.numbers Ability.ofController s.controllerAbilities
      pure { result := .ok (.abilities numbers) }
    | .publish m =>
      respond (PublishRequest.ofMessage m) s.publishVolume (fun _ ↦ .ok .done) fun _ ↦ []
    | .unpublish m =>
      respond (UnpublishRequest.ofMessage m) s.unpublishVolume (fun _ ↦ .ok .done) fun _ ↦ []
    | .nodeInfo =>
      respond (.ok ()) (fun _ ↦ s.nodeInfo) (·.1.toMessage.map .nodeInfo) (·.2)
    | .nodeCapabilities =>
      pure { result := .ok (.abilities (Ability.numbers Ability.ofNode s.nodeAbilities)) }
    | .named name => pure { result := .error (.unsupported name) }

end Service

end RealmDriver
