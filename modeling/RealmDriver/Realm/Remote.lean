import RealmDriver.Realm.Basic
import RealmDriver.Realm.Command
import RealmDriver.Realm.Listing
import RealmDriver.Realm.Session

namespace RealmDriver.Remote

variable {ω : Type} (s : SessionSettings) (m : Machine ω)

def read (secrets : Dictionary) (command : List String) :
    Action (Host ω) RealmError (List VolumeRecord) := do
  let text ← Session.run s m secrets command
  Action.ofExcept (Listing.read text)

def lookup (name : String) (secrets : Dictionary) : Action (Host ω) RealmError VolumeRecord := do
  let volumes ← read s m secrets (Command.lookup name)
  match volumes.find? (·.name = VolumeName.strip name) with
  | some record => pure record
  | none => throw ⟨.notFound, s!"no volume with name {VolumeName.path name}"⟩

def create (name : String) (parameters secrets : Dictionary) :
    Action (Host ω) RealmError VolumeRecord := do
  let _ ← Session.run s m secrets (Command.create name parameters)
  lookup s m name secrets

def delete (name : String) (secrets : Dictionary) : Action (Host ω) RealmError Unit := do
  let _ ← Session.run s m secrets (Command.delete name)

/-- The commands that bring a volume to a target. The hard quota goes first, since it may never be
below the soft one. -/
def growth (record : VolumeRecord) (name : String) (target : Quota) : List (List String) :=
  (if record.hard.isPositive && record.hard.lt target then
    [Command.setQuota name .hard target] else []) ++ [Command.setQuota name .soft target]

def expand (name : String) (bytes : Int) (secrets : Dictionary) :
    Action (Host ω) RealmError Unit := do
  let record ← lookup s m name secrets
  (growth record name (Quota.ofBytes bytes)).forM fun command ↦ do
    let _ ← Session.run s m secrets command

def realm : Realm (Host ω) where
  create := create s m
  delete := delete s m
  expand := expand s m
  lookup := lookup s m
  list secrets := read s m secrets Command.list

end RealmDriver.Remote
