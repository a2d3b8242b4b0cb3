import RealmDriver.Rpc.Status
import RealmDriver.Text.Quoted

namespace RealmDriver

inductive AccessMode where
  | unknown
  | singleNodeWriter
  | singleNodeReaderOnly
  | multiNodeReaderOnly
  | multiNodeSingleWriter
  | multiNodeMultiWriter
  | singleNodeSingleWriter
  | singleNodeMultiWriter
  deriving DecidableEq, Repr

namespace AccessMode

def all : List AccessMode :=
  [unknown, singleNodeWriter, singleNodeReaderOnly, multiNodeReaderOnly, multiNodeSingleWriter,
    multiNodeMultiWriter, singleNodeSingleWriter, singleNodeMultiWriter]

/-- The mode with a number; other numbers are of later protocols and mean no mode known here. -/
def ofNumber (n : Int) : AccessMode :=
  if n < 0 then unknown else all.getD n.toNat unknown

def number (m : AccessMode) : Int := all.idxOf m

def name : AccessMode → String
  | unknown => "Unknown"
  | singleNodeWriter => "SingleNodeWriter"
  | singleNodeReaderOnly => "SingleNodeReaderOnly"
  | multiNodeReaderOnly => "MultiNodeReaderOnly"
  | multiNodeSingleWriter => "MultiNodeSingleWriter"
  | multiNodeMultiWriter => "MultiNodeMultiWriter"
  | singleNodeSingleWriter => "SingleNodeSingleWriter"
  | singleNodeMultiWriter => "SingleNodeMultiWriter"

end AccessMode

structure MountMessage where
  fsType : String := ""
  flags : List String := []
  group : String := ""
  deriving DecidableEq, Repr

inductive AccessMessage where
  | block
  | mount (m : MountMessage)
  deriving DecidableEq, Repr

structure CapabilityMessage where
  mode : Option Int := none
  access : Option AccessMessage := none
  deriving DecidableEq, Repr

/-- The way to a volume's content. A file system type that is not named is left to the service. -/
inductive Access where
  | block
  | mount (fsType : Option String) (flags : List String)
  deriving DecidableEq, Repr

namespace Access

def isMount : Access → Bool
  | block => false
  | mount _ _ => true

def flags : Access → List String
  | block => []
  | mount _ flags => flags

def ofMessage : AccessMessage → Access
  | .block => block
  | .mount m => mount (if m.fsType = "" then none else some m.fsType) m.flags

def toMessage : Access → AccessMessage
  | block => .block
  | mount fsType flags => .mount { fsType := fsType.getD "", flags }

/-- For records that people read. Mount flags may hold secrets, so only their number shows. -/
def printed : Access → String
  | block => "Block"
  | mount fsType flags =>
    let fields := [("fs_type", Text.printedOption Text.quoted fsType),
      ("mount_flags", Text.quoted s!"REDACTED ({flags.length} items)")]
    "Mount(" ++ Text.printedRecord "MountVolume" fields ++ ")"

end Access

structure Capability where
  mode : AccessMode
  access : Access
  deriving DecidableEq, Repr

namespace Capability

def ofMessage (m : CapabilityMessage) : Except Status Capability :=
  match m.mode, m.access with
  | none, _ => .error (.invalidArgument "Missing access_mode for VolumeCapability")
  | some _, none => .error (.invalidArgument "Missing access_type for VolumeCapability")
  | some mode, some access => .ok ⟨.ofNumber mode, .ofMessage access⟩

def toMessage (c : Capability) : CapabilityMessage :=
  { mode := some c.mode.number, access := some c.access.toMessage }

def printed (c : Capability) : String :=
  Text.printedRecord "VolumeCapability"
    [("access_mode", c.mode.name), ("access_type", c.access.printed)]

end Capability

end RealmDriver
