import RealmDriver.Action
import RealmDriver.Realm.Error
import RealmDriver.Realm.Record

namespace RealmDriver

/-- The calls on a realm that is part of a state of type `σ`. -/
structure Realm (σ : Type) where
  /-- Creates a volume with some parameters and returns it as the realm sees it. -/
  create (name : String) (parameters secrets : Dictionary) : Action σ RealmError VolumeRecord
  delete (name : String) (secrets : Dictionary) : Action σ RealmError Unit
  /-- Sets the soft quota to some bytes, and raises a hard quota that would be below it. -/
  expand (name : String) (bytes : Int) (secrets : Dictionary) : Action σ RealmError Unit
  lookup (name : String) (secrets : Dictionary) : Action σ RealmError VolumeRecord
  list (secrets : Dictionary) : Action σ RealmError (List VolumeRecord)

namespace Realm

def within (get : τ → σ) (set : σ → τ → τ) (r : Realm σ) : Realm τ where
  create name parameters secrets := (r.create name parameters secrets).on get set
  delete name secrets := (r.delete name secrets).on get set
  expand name bytes secrets := (r.expand name bytes secrets).on get set
  lookup name secrets := (r.lookup name secrets).on get set
  list secrets := (r.list secrets).on get set

end Realm

end RealmDriver
