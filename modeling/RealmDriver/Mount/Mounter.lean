import RealmDriver.Machine.Basic
import RealmDriver.Mount.Error
import RealmDriver.Mount.Point

namespace RealmDriver

/-- What to mount where. An empty type is left to the system to find out. -/
structure MountCall where
  source : String
  target : Path
  fsType : String
  options : List String
  deriving DecidableEq, Repr

namespace MountCall

def bind : String := "bind"

/-- The call that makes the directory `source` appear at `target`, too. -/
def binding (source target : Path) (options : List String) : MountCall :=
  { source, target, fsType := "",
    options := if bind ∈ options then options else bind :: options }

end MountCall

/-- Mounting and unmounting on a host. Unmounting what is not mounted succeeds. -/
structure Mounter (ω : Type) where
  mount : MountCall → Action (Host ω) MountError Unit
  unmount : Path → Action (Host ω) MountError Unit
  list : Action (Host ω) MountError (List MountPoint)
  isMountPoint : Path → Action (Host ω) MountError Bool

namespace Mounter

def bindMount (m : Mounter ω) (source target : Path) (options : List String) :
    Action (Host ω) MountError Unit :=
  m.mount (.binding source target options)

end Mounter

end RealmDriver
