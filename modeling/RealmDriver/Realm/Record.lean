import RealmDriver.Realm.Attribute
import RealmDriver.Quota

namespace RealmDriver

/-- A volume of the realm. An attribute that the realm does not report is empty; a quota of zero
sets no bound. -/
@[ext]
structure VolumeRecord where
  name : String
  id : String := ""
  state : String := ""
  value : Attribute → String := fun _ ↦ ""
  soft : Quota := Binary64.zero
  hard : Quota := Binary64.zero

namespace VolumeRecord

instance : Inhabited VolumeRecord := ⟨{ name := "" }⟩

def setValue (r : VolumeRecord) (a : Attribute) (text : String) : VolumeRecord :=
  { r with value := fun b ↦ if b = a then text else r.value b }

def encryption (r : VolumeRecord) : String :=
  match r.value .encryption with
  | "" => "off"
  | mode => mode

def reported (r : VolumeRecord) : Attribute → String
  | .encryption => r.encryption
  | a => r.value a

def softBytes (r : VolumeRecord) : Nat := r.soft.toBytes

def hardBytes (r : VolumeRecord) : Nat := r.hard.toBytes

/-- Everything that the orchestrator is told, keyed like the parameters of a creation. Attributes
that are empty are left out. -/
def context (r : VolumeRecord) : Dictionary :=
  let told := Attribute.all.filterMap fun a ↦
    if r.reported a = "" then none else some (a.key, r.reported a)
  Dictionary.ofList (told ++ [(Bound.soft.key, r.soft.text), (Bound.hard.key, r.hard.text)])

end VolumeRecord

end RealmDriver
