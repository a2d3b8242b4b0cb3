import RealmDriver.Files.Path
import RealmDriver.Text.Quoted

namespace RealmDriver

/-- Something mounted at a directory. The two numbers are what the table ends a line with; the
kernel no longer gives them a meaning. -/
structure MountPoint where
  device : String
  path : Path
  fsType : String
  options : List String
  frequency : Int := 0
  pass : Int := 0
  deriving DecidableEq, Repr

namespace MountPoint

/-- The kernel puts this behind the path of a mount whose directory was removed. -/
def deletedMark : String := "\\040(deleted)"

/-- Whether the entry is mounted at a directory, be it removed by now. -/
def isAt (m : MountPoint) (dir : Path) : Bool :=
  Path.same m.path dir || Path.same m.path (dir ++ deletedMark)

/-- For records that people read. Options may hold secrets, so only their number shows. -/
def printed (m : MountPoint) : String :=
  Text.printedRecord "MountPoint"
    [("device", Text.quoted m.device), ("path", Text.quoted m.path),
      ("type", Text.quoted m.fsType), ("opts", Text.quoted s!"length={m.options.length}"),
      ("freq", toString m.frequency), ("pass", toString m.pass)]

end MountPoint

end RealmDriver
