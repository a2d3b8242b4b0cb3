import RealmDriver.Rpc.Status
import RealmDriver.Text.Quoted

namespace RealmDriver

inductive SourceMessage where
  | unset
  | volume (id : String)
  | snapshot (id : String)
  deriving DecidableEq, Repr

inductive ContentSource where
  | volume (id : String)
  | snapshot (id : String)
  deriving DecidableEq, Repr

namespace ContentSource

def ofMessage : SourceMessage → Except Status (Option ContentSource)
  | .unset => .ok none
  | .volume id =>
    if id = "" then .error (.invalidArgument "VolumeContentSource volume_id cannot be empty")
    else .ok (some (volume id))
  | .snapshot id =>
    if id = "" then .error (.invalidArgument "VolumeContentSource snapshot_id cannot be empty")
    else .ok (some (snapshot id))

def printed : ContentSource → String
  | volume id => "Volume(" ++ Text.quoted id ++ ")"
  | snapshot id => "Snapshot(" ++ Text.quoted id ++ ")"

end ContentSource

end RealmDriver
