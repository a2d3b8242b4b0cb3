import RealmDriver.Number.Numeral
import RealmDriver.Server.Endpoint
import RealmDriver.Service.Call
import RealmDriver.Service.Plugin

namespace RealmDriver

inductive Setting where
  | endpoint
  | mode
  | driverName
  | nodeId
  | logLevel
  | keyManagerDirectory
  | fakeMounter
  | labelNode
  | nodeLabel
  | connectTimeout
  | knownHosts
  deriving DecidableEq, Repr

namespace Setting

def all : List Setting :=
  [endpoint, mode, driverName, nodeId, logLevel, keyManagerDirectory, fakeMounter, labelNode,
    nodeLabel, connectTimeout, knownHosts]

def option : Setting → String
  | endpoint => "endpoint"
  | mode => "mode"
  | driverName => "driver-name"
  | nodeId => "node-id"
  | logLevel => "log-level"
  | keyManagerDirectory => "kmip-config-dir"
  | fakeMounter => "fake-mounter"
  | labelNode => "label-node"
  | nodeLabel => "node-label"
  | connectTimeout => "ssh-connect-timeout"
  | knownHosts => "ssh-known-hosts"

def environment : Setting → String
  | endpoint => "CSI_ENDPOINT"
  | mode => "CSI_MODE"
  | driverName => "CSI_DRIVER_NAME"
  | nodeId => "NODE_ID"
  | logLevel => "LOG_LEVEL"
  | keyManagerDirectory => "KMIP_CONFIG_DIR"
  | fakeMounter => "CSI_FAKE_MOUNTER"
  | labelNode => "CSI_LABEL_NODE"
  | nodeLabel => "CSI_NODE_LABEL"
  | connectTimeout => "SSH_CONNECT_TIMEOUT"
  | knownHosts => "SSH_KNOWN_HOSTS"

def isFlag : Setting → Bool
  | fakeMounter | labelNode => true
  | _ => false

def ofOption? (name : String) : Option Setting := all.find? (·.option = name)

end Setting

structure Settings where
  endpoint : Endpoint := ⟨"/csi/csi.sock"⟩
  mode : Mode := .all
  driverName : String := PluginSettings.defaultName
  /-- Without one, the name of the host is taken. -/
  nodeId : Option String := none
  logLevel : String := "info"
  keyManagerDirectory : Path := PluginSettings.defaultKeyManagerDirectory
  fakeMounter : Bool := false
  labelNode : Bool := false
  nodeLabel : String := PluginSettings.defaultNodeLabel
  /-- In seconds. -/
  connectTimeout : Nat := 30
  knownHosts : Option Path := none
  deriving DecidableEq, Repr

inductive ValueFault where
  /-- The text is none of those that are possible. -/
  | impossible
  /-- The text could not be read. -/
  | unreadable
  deriving DecidableEq, Repr

namespace Settings

def readMode : String → Except ValueFault Mode
  | "controller" => .ok .controller
  | "node" => .ok .node
  | "all" => .ok .all
  | _ => .error .impossible

def readFlag : String → Except ValueFault Bool
  | "true" => .ok true
  | "false" => .ok false
  | _ => .error .impossible

def readPath (text : String) : Except ValueFault Path :=
  if text = "" then .error .impossible else .ok text

def assign (s : Settings) (text : String) : Setting → Except ValueFault Settings
  | .endpoint =>
    match Endpoint.ofText text with
    | .ok endpoint => .ok { s with endpoint }
    | .error _ => .error .unreadable
  | .mode => (readMode text).map fun mode ↦ { s with mode }
  | .driverName => .ok { s with driverName := text }
  | .nodeId => .ok { s with nodeId := some text }
  | .logLevel => .ok { s with logLevel := text }
  | .keyManagerDirectory =>
    (readPath text).map fun keyManagerDirectory ↦ { s with keyManagerDirectory }
  | .fakeMounter => (readFlag text).map fun fakeMounter ↦ { s with fakeMounter }
  | .labelNode => (readFlag text).map fun labelNode ↦ { s with labelNode }
  | .nodeLabel => .ok { s with nodeLabel := text }
  | .connectTimeout =>
    match Numeral.readNat (UInt64.size - 1) text with
    | .ok connectTimeout => .ok { s with connectTimeout }
    | .error _ => .error .unreadable
  | .knownHosts => (readPath text).map fun path ↦ { s with knownHosts := some path }

end Settings

end RealmDriver
