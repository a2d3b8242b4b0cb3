import RealmDriver.KeyManager.File
import RealmDriver.Mount.Mounter
import RealmDriver.Node.Request
import RealmDriver.Rpc.Failure
import RealmDriver.Validation

namespace RealmDriver.Node

variable {ω : Type}

/-- Under this key the orchestrator marks a volume that lives no longer than its workload. -/
def ephemeralKey : String := "csi.storage.k8s.io/ephemeral"

def fsType : String := "panfs"

def device (realm volume : String) : String := s!"panfs://{realm}/{volume}"

def isEncrypted (context : Dictionary) : Bool :=
  context[Attribute.encryption.key]? = some "on"

/-- What is checked before anything is done. A request that passes gives mount options. -/
def check (r : PublishRequest) : Except Failure (List String) := do
  (Validation.credentials r.secrets).mapError fun e ↦ .invalidArgument e.message
  if !r.capability.access.isMount then
    throw (.exceedsCapabilities "only mount volumes are supported")
  if r.context[ephemeralKey]? = some "true" then throw (.ephemeral r.volumeId)
  pure (r.capability.access.flags ++ if r.readonly then ["ro"] else [])

def mountCall (r : PublishRequest) (options : List String) : MountCall where
  source := device (r.secrets.getD Secret.realmAddress.key "") r.volumeId
  target := r.target
  fsType := fsType
  options := options

/-- Data that is missing is the caller's fault, all else is not. -/
def keyManagerFailure : KeyManagerError → Failure
  | .missingData => .invalidArgument KeyManagerError.missingData.message
  | e => .internal e.message

def mount (mounter : Mounter ω) (r : PublishRequest) (options : List String) :
    Action (Host ω) Failure Unit :=
  (mounter.mount (mountCall r options)).rephrase fun e ↦
    .internal ("Failed to publish volume: " ++ e.message)

/-- Mounts a volume, with the files about key managers in a directory of their own. -/
def publish (directory : Path) (mounter : Mounter ω) (r : PublishRequest) :
    Action (Host ω) Failure Unit := do
  let options ← Action.ofExcept (check r)
  if isEncrypted r.context then
    let file ← (Host.onFiles
      (KeyManagerFile.create directory r.secrets[Secret.keyManager.key]?)).rephrase
        keyManagerFailure
    (mount mounter r (options ++ [file.option])).andAlways fun h ↦
      { h with files := file.release h.files }
  else mount mounter r options

/-- Unmounts a volume and removes the directory that it was mounted at, if it is empty then. -/
def unpublish (mounter : Mounter ω) (r : UnpublishRequest) : Action (Host ω) Failure Unit := do
  (mounter.unmount r.target).rephrase fun e ↦
    .internal ("Failed to unpublish volume: " ++ e.message)
  modify fun h ↦ { h with files := (h.files.removeDirectory r.target).toOption.getD h.files }

end RealmDriver.Node
