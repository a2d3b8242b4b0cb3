import RealmDriver.Mount.Mounter
import RealmDriver.Mount.Steady
import RealmDriver.Mount.Table
import RealmDriver.Text.Blank
import RealmDriver.Text.Utf8

namespace RealmDriver

structure HostMounter where
  mountProgram : Path
  unmountProgram : Path
  deriving DecidableEq, Repr

namespace HostMounter

variable {ω : Type}

def find (m : Machine ω) (name : String) : Action (Host ω) MountError Path := do
  match ← m.find name with
  | some p => pure p
  | none => throw (.missingProgram name Machine.missingProgram)

def locate (m : Machine ω) : Action (Host ω) MountError HostMounter := do
  return { mountProgram := ← find m "mount", unmountProgram := ← find m "umount" }

def attempts : Nat := 3

def list (m : Machine ω) : Action (Host ω) MountError (List MountPoint) := do
  let read : Action (Host ω) MountError (List UInt8) :=
    (Host.onOutside (Action.ofOutcome m.readTable)).rephrase .system
  match ← readSteadily read attempts with
  | none => throw (.unsteadyTable attempts)
  | some bytes => Action.ofExcept ((MountTable.read bytes).mapError .invalidTable)

/-- Whether something is mounted at a directory. The table has paths without links, so those on the
way to the directory are resolved first. -/
def isMountPoint (m : Machine ω) (target : Path) : Action (Host ω) MountError Bool := do
  let target := ((← get).files.canonical? target).getD target
  return (← list m).any (·.isAt target)

/-- Whether a program did what it was started for; if not, how it ended and what it said. -/
def report (f : Finished) : Except String Unit :=
  if f.ending.isSuccess then .ok ()
  else .error s!"{f.ending.text}, output: {Text.trim (Text.decodeLossy f.output)}"

def arguments (call : MountCall) : List String :=
  (if call.fsType = "" then [] else ["-t", call.fsType])
    ++ (if call.options.isEmpty then [] else ["-o", ",".intercalate call.options])
    ++ [call.source, call.target]

def runProgram (m : Machine ω) (program : Path) (arguments : List String)
    (failed : String → MountError) : Action (Host ω) MountError Unit := do
  let finished ← (m.start { program, arguments }).rephrase .system
  Action.ofExcept ((report finished).mapError failed)

def runMount (h : HostMounter) (m : Machine ω) (call : MountCall) :
    Action (Host ω) MountError Unit :=
  runProgram m h.mountProgram (arguments call) fun text ↦
    .mountFailed s!"mount {call.source} on {call.target}: {text}"

/-- An option for programs only; the kernel does not keep it. -/
def networkDevice : String := "_netdev"

def bindOptions (options : List String) : List String :=
  MountCall.bind :: options.filter (· = networkDevice)

def remountOptions (options : List String) : List String :=
  MountCall.bind :: "remount" :: options.filter (· ≠ MountCall.bind)

def steps (call : MountCall) : List MountCall :=
  if MountCall.bind ∈ call.options then
    [{ call with options := bindOptions call.options },
      { call with options := remountOptions call.options }]
  else [call]

def targetMode : Nat := 0o755

/-- Mounts at a directory, which is made if it is missing. Where something is mounted already,
nothing is done. -/
def mount (h : HostMounter) (m : Machine ω) (call : MountCall) :
    Action (Host ω) MountError Unit := do
  (Host.onFiles (FileTree.createAll targetMode call.target)).rephrase .system
  if ← isMountPoint m call.target then pure ()
  else (steps call).forM (h.runMount m)

def unmount (h : HostMounter) (m : Machine ω) (target : Path) :
    Action (Host ω) MountError Unit := do
  if ← isMountPoint m target then
    runProgram m h.unmountProgram [target] fun text ↦ .unmountFailed s!"umount {target}: {text}"
  else pure ()

def mounter (h : HostMounter) (m : Machine ω) : Mounter ω where
  mount := h.mount m
  unmount := h.unmount m
  list := list m
  isMountPoint := isMountPoint m

end HostMounter

end RealmDriver
