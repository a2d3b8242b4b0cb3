import RealmDriver.Mount.Mounter

namespace RealmDriver

inductive MountEvent where
  | mounted (call : MountCall)
  | unmounted (target : Path)
  deriving DecidableEq, Repr

/-- What a mounter in memory remembers. The two texts, if given, are the failures of all further
calls. -/
structure MountMemory where
  points : List MountPoint := []
  log : List MountEvent := []
  mountFailure : Option String := none
  unmountFailure : Option String := none

namespace MountMemory

/-- What the table shows as the device of a mount. A directory that appears a second time has the
device that is mounted there. -/
def device (points : List MountPoint) (call : MountCall) : String :=
  if MountCall.bind ∈ call.options then
    match points.find? (·.path = call.source) with
    | some p => p.device
    | none => call.source
  else call.source

def mount (call : MountCall) (m : MountMemory) : Except MountError MountMemory :=
  match m.mountFailure with
  | some text => .error (.mountFailed text)
  | none =>
    let point : MountPoint :=
      { device := device m.points call, path := call.target, fsType := call.fsType
        options := call.options }
    .ok { m with points := m.points ++ [point], log := m.log ++ [.mounted call] }

def hasMountAt (m : MountMemory) (target : Path) : Bool := m.points.any (·.isAt target)

def unmount (target : Path) (m : MountMemory) : Except MountError MountMemory :=
  match m.hasMountAt target, m.unmountFailure with
  | true, some text => .error (.unmountFailed text)
  | _, _ =>
    .ok { m with
      points := m.points.eraseP (·.isAt target)
      log := m.log ++ [.unmounted target] }

def mounter (get : ω → MountMemory) (set : MountMemory → ω → ω) : Mounter ω where
  mount call := Host.onOutside ((Action.atomically (mount call)).on get set)
  unmount target := Host.onOutside ((Action.atomically (unmount target)).on get set)
  list := do return (get (← getThe (Host ω)).outside).points
  isMountPoint target := do return (get (← getThe (Host ω)).outside).hasMountAt target

end MountMemory

end RealmDriver
