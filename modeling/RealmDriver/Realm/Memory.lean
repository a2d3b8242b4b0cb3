import RealmDriver.Realm.Basic
import RealmDriver.Realm.Name

namespace RealmDriver

structure RealmMemory where
  volumes : Std.ExtTreeMap String VolumeRecord := ∅
  /-- The answer to all further calls. -/
  failure : Option String := none
  /-- The mode of encryption that new volumes report, whatever was asked for. -/
  reportedEncryption : Option String := none
  calls : Nat := 0
  creations : Nat := 0

namespace RealmMemory

def insert (record : VolumeRecord) (m : RealmMemory) : RealmMemory :=
  { m with volumes := m.volumes.insert record.name record }

/-- The begin of every call: it is counted, and fails if all calls are to fail. -/
def enter : Action RealmMemory RealmError Unit := do
  modify fun m ↦ { m with calls := m.calls + 1 }
  match (← get).failure with
  | some text => Action.ofExcept (classify text)
  | none => pure ()

def quota (parameters : Dictionary) (b : Bound) : Except RealmError Quota :=
  match parameters[b.key]? with
  | none => .ok Binary64.zero
  | some text =>
    match Quota.read? text with
    | some q => .ok q
    | none => .error ⟨.invalidArgument, s!"Invalid string '{text}' for {b.name}"⟩

def newRecord (m : RealmMemory) (name : String) (parameters : Dictionary) (soft hard : Quota) :
    VolumeRecord :=
  let r : VolumeRecord :=
    { name, soft, hard, id := toString (m.volumes.size + 1), state := "Online"
      value := fun a ↦ parameters.getD a.key "" }
  match m.reportedEncryption with
  | some mode => r.setValue .encryption mode
  | none => r

def create (name : String) (parameters : Dictionary) :
    Action RealmMemory RealmError VolumeRecord := do
  modify fun m ↦ { m with creations := m.creations + 1 }
  enter
  let name := VolumeName.strip name
  let m ← get
  if m.volumes.contains name then
    Action.ofExcept (classify s!"Error: volume /{name} already exists")
  let soft ← Action.ofExcept (quota parameters .soft)
  let hard ← Action.ofExcept (quota parameters .hard)
  let record := m.newRecord name parameters soft hard
  set (m.insert record)
  pure record

def delete (name : String) : Action RealmMemory RealmError Unit := do
  enter
  let name := VolumeName.strip name
  let m ← get
  if m.volumes.contains name then set { m with volumes := m.volumes.erase name }
  else Action.ofExcept (classify "Error: volume(s) do not exist")

/-- The record with its soft quota at a target; a hard quota below that is raised to it. -/
def grown (record : VolumeRecord) (target : Quota) : VolumeRecord :=
  { record with
    soft := target
    hard := if record.hard.isPositive && record.hard.lt target then target else record.hard }

def expand (name : String) (bytes : Int) : Action RealmMemory RealmError Unit := do
  enter
  let name := VolumeName.strip name
  let m ← get
  match m.volumes[name]? with
  | none => Action.ofExcept (classify s!"No volume with name /{name}")
  | some record =>
    let record := grown record (Quota.ofBytes bytes)
    set { m with volumes := m.volumes.insert name record }

def lookup (name : String) : Action RealmMemory RealmError VolumeRecord := do
  enter
  let name := VolumeName.strip name
  match (← get).volumes[name]? with
  | some record => pure record
  | none => throw ⟨.notFound, s!"No volume with name /{name}"⟩

def list : Action RealmMemory RealmError (List VolumeRecord) := do
  enter
  return (← get).volumes.values

def realm : Realm RealmMemory where
  create name parameters _ := create name parameters
  delete name _ := delete name
  expand name bytes _ := expand name bytes
  lookup name _ := lookup name
  list _ := list

end RealmMemory

end RealmDriver
