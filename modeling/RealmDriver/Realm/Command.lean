import RealmDriver.Realm.Name
import RealmDriver.Realm.Record

namespace RealmDriver.Command

def create (name : String) (parameters : Dictionary) : List String :=
  let options := Attribute.all.map (fun a ↦ (a.name, a.key))
    ++ [Bound.soft, Bound.hard].map fun b ↦ (b.name, b.key)
  ["volume", "create", VolumeName.path name] ++ options.flatMap fun (option, key) ↦
    match parameters[key]? with
    | some value => [option, value]
    | none => []

def delete (name : String) : List String := ["volume", "delete", VolumeName.path name, "force"]

def setQuota (name : String) (b : Bound) (q : Quota) : List String :=
  ["volume", "set", b.name, VolumeName.path name, q.text]

def lookup (name : String) : List String := ["pasxml", "volumes", "volume", VolumeName.path name]

def list : List String := ["pasxml", "volumes"]

end RealmDriver.Command
