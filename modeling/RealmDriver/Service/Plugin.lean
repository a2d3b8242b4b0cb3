import RealmDriver.Controller.Basic
import RealmDriver.Node.Publish
import RealmDriver.Node.Readiness
import RealmDriver.Service.Basic

namespace RealmDriver

structure PluginSettings where
  name : String
  nodeId : String
  /-- The label that says that a node is ready. -/
  nodeLabel : String
  keyManagerDirectory : Path

namespace PluginSettings

def defaultName : String := "com.vdura.csi.panfs"

def defaultNodeLabel : String := "node.kubernetes.io/panfs-csi-ready"

def defaultKeyManagerDirectory : Path := "/tmp/panfs-csi-kmip"

end PluginSettings

namespace Plugin

variable {ω : Type}

def version : String := "0.1.0"

def onHost (a : Action (Host ω) Failure α) : Action (Readiness × Host ω) Failure α :=
  a.on Prod.snd fun host s ↦ (s.1, host)

def service (s : PluginSettings) (realm : Realm (Host ω)) (mounter : Mounter ω)
    (annotator : Annotator (Host ω)) : Service (Readiness × Host ω) where
  identity := { name := s.name, version, expansion := .online }
  controllerAbilities :=
    Ability.set [Ability.createDelete, Ability.expand, Ability.singleNodeMultiWriter]
  nodeAbilities := Ability.set [Ability.nodeSingleNodeMultiWriter]
  createVolume r := onHost (Creation.run realm r)
  deleteVolume r := onHost (Controller.delete realm r)
  validateCapabilities r := onHost (Controller.validate realm r)
  expandVolume r := onHost (Controller.expand realm r)
  publishVolume r := onHost (Node.publish s.keyManagerDirectory mounter r)
  unpublishVolume r := onHost (Node.unpublish mounter r)
  nodeInfo := Readiness.announce annotator s.nodeId s.nodeLabel

end Plugin

end RealmDriver
