import RealmDriver.Proofs.Coupling
import RealmDriver.Proofs.Realm.Memory

namespace RealmDriver

def RealmError.SameKind (e e' : RealmError) : Prop := e.kind = e'.kind

instance : Std.Refl RealmError.SameKind := ⟨fun _ ↦ rfl⟩

namespace Realm

variable {σ σ' τ τ' α : Type}

/-- What can be asked of a realm, the secrets apart. -/
inductive Operation : Type → Type
  | create (name : String) (parameters : Dictionary) : Operation VolumeRecord
  | delete (name : String) : Operation Unit
  | expand (name : String) (bytes : Int) : Operation Unit
  | lookup (name : String) : Operation VolumeRecord
  | list : Operation (List VolumeRecord)

def Operation.changed? : Operation α → Option String
  | .create name _ | .delete name | .expand name _ => some name
  | .lookup _ | .list => none

def perform (realm : Realm σ) (secrets : Dictionary) : Operation α → Action σ RealmError α
  | .create name parameters => realm.create name parameters secrets
  | .delete name => realm.delete name secrets
  | .expand name bytes => realm.expand name bytes secrets
  | .lookup name => realm.lookup name secrets
  | .list => realm.list secrets

/-- Each operation ends alike at both realms, up to the text of its failure. -/
def Alike (R : σ → σ' → Prop) (realm : Realm σ) (realm' : Realm σ') : Prop :=
  ∀ (α : Type) (op : Operation α) (secrets : Dictionary),
    Action.Paired R RealmError.SameKind Eq (realm.perform secrets op) (realm'.perform secrets op)

theorem Alike.within {R : σ → σ' → Prop} {realm : Realm σ} {realm' : Realm σ'} {get : τ → σ}
    {get' : τ' → σ'} {set : σ → τ → τ} {set' : σ' → τ' → τ'} (hget : ∀ s t, get (set s t) = s)
    (hget' : ∀ s t, get' (set' s t) = s) (h : Alike R realm realm') :
    Alike (fun t t' ↦ R (get t) (get' t')) (realm.within get set) (realm'.within get' set') := by
  intro α op secrets
  have hon : Action.Paired (fun t t' ↦ R (get t) (get' t')) RealmError.SameKind Eq
      ((realm.perform secrets op).on get set) ((realm'.perform secrets op).on get' set') := by
    apply (h α op secrets).on
    · exact fun _ _ ht ↦ ht
    · intro t t' s s' _ hs
      rwa [hget, hget']
  cases op <;> exact hon

end Realm

namespace RealmMemory

/-- The same volumes, and failures of one kind if there are any. -/
structure Alike (m m' : RealmMemory) : Prop where
  volumes : m.volumes = m'.volumes
  reportedEncryption : m.reportedEncryption = m'.reportedEncryption
  admission : Matching RealmError.SameKind Eq m.admission m'.admission

variable {m m' : RealmMemory} (name : String) (parameters : Dictionary)

theorem Alike.record? (h : Alike m m') : m.record? name = m'.record? name := by
  rw [RealmMemory.record?, RealmMemory.record?, h.volumes]

theorem Alike.called (h : Alike m m') : Alike m.called m'.called := ⟨h.1, h.2, h.3⟩

theorem Alike.attempted (h : Alike m m') : Alike m.attempted m'.attempted := ⟨h.1, h.2, h.3⟩

theorem Alike.insert (h : Alike m m') (record : VolumeRecord) :
    Alike (insert record m) (insert record m') :=
  ⟨congrArg (·.insert record.name record) h.volumes, h.reportedEncryption, h.admission⟩

theorem Alike.without (h : Alike m m') : Alike (m.without name) (m'.without name) :=
  ⟨congrArg (·.erase (VolumeName.strip name)) h.volumes, h.reportedEncryption, h.admission⟩

theorem Alike.enlarged (h : Alike m m') (bytes : Int) (record : VolumeRecord) :
    Alike (m.enlarged name bytes record) (m'.enlarged name bytes record) :=
  ⟨congrArg (·.insert (VolumeName.strip name) (grown record (Quota.ofBytes bytes))) h.volumes,
    h.reportedEncryption, h.admission⟩

theorem Alike.admits (h : Alike m m') : (m.admission = .ok () ∧ m'.admission = .ok ()) ∨
    ∃ e e', m.admission = .error e ∧ m'.admission = .error e' ∧ e.SameKind e' := by
  have hadmission := h.admission
  generalize m.admission = x at hadmission ⊢
  generalize m'.admission = x' at hadmission ⊢
  cases hadmission with
  | ok => exact .inl ⟨rfl, rfl⟩
  | error hkind => exact .inr ⟨_, _, rfl, rfl, hkind⟩

theorem Alike.newRecord (h : Alike m m') : m.newRecord name parameters = m'.newRecord name parameters := by
  funext soft hard
  rw [RealmMemory.newRecord, RealmMemory.newRecord, h.volumes, h.reportedEncryption]

theorem Alike.created (h : Alike m m') :
    Matching RealmError.SameKind Eq (m.created name parameters) (m'.created name parameters) := by
  apply h.admission.bind
  intro _ _ _
  rw [h.record?, h.newRecord]
  exact .of_eq rfl fun e _ ↦ refl e

theorem Alike.found (h : Alike m m') :
    Matching RealmError.SameKind Eq (m.found name) (m'.found name) := by
  apply h.admission.bind
  intro _ _ _
  rw [h.record?]
  exact .of_eq rfl fun e _ ↦ refl e

theorem create_paired : Action.Paired Alike RealmError.SameKind Eq (create name parameters)
    (create name parameters) := by
  intro m m' h
  have hcreated := h.created name parameters
  rw [create_outcome, create_outcome]
  generalize m.created name parameters = x at hcreated ⊢
  generalize m'.created name parameters = x' at hcreated ⊢
  cases hcreated with
  | ok hrecord =>
    subst hrecord
    exact ⟨.ok rfl, h.attempted.insert _⟩
  | error hkind => exact ⟨.error hkind, h.attempted⟩

theorem lookup_paired : Action.Paired Alike RealmError.SameKind Eq (lookup name) (lookup name) := by
  intro m m' h
  rw [lookup_outcome, lookup_outcome]
  exact ⟨h.found name, h.called⟩

theorem delete_paired : Action.Paired Alike RealmError.SameKind Eq (delete name) (delete name) := by
  intro m m' h
  rw [delete_outcome, delete_outcome, h.record?]
  rcases h.admits with ⟨hm, hm'⟩ | ⟨e, e', hm, hm', hkind⟩
  · rw [hm, hm']
    cases m'.record? name with
    | none => exact ⟨.of_eq rfl fun e _ ↦ refl e, h.called⟩
    | some record => exact ⟨.ok rfl, h.without name⟩
  · rw [hm, hm']
    exact ⟨.error hkind, h.called⟩

theorem expand_paired (bytes : Int) :
    Action.Paired Alike RealmError.SameKind Eq (expand name bytes) (expand name bytes) := by
  intro m m' h
  rw [expand_outcome, expand_outcome, h.record?]
  rcases h.admits with ⟨hm, hm'⟩ | ⟨e, e', hm, hm', hkind⟩
  · rw [hm, hm']
    cases m'.record? name with
    | none => exact ⟨.of_eq rfl fun e _ ↦ refl e, h.called⟩
    | some record => exact ⟨.ok rfl, h.enlarged name bytes record⟩
  · rw [hm, hm']
    exact ⟨.error hkind, h.called⟩

theorem list_paired : Action.Paired Alike RealmError.SameKind Eq list list := by
  apply Action.Paired.bind (V := Eq)
  · intro m m' h
    rw [enter_outcome, enter_outcome]
    exact ⟨h.admission, h.called⟩
  · intro _ _ _ m m' h
    exact ⟨.ok (congrArg Std.ExtTreeMap.values h.volumes), h⟩

theorem realm_alike : Realm.Alike Alike realm realm := by
  intro α op secrets
  cases op with
  | create name parameters => exact create_paired name parameters
  | delete name => exact delete_paired name
  | expand name bytes => exact expand_paired name bytes
  | lookup name => exact lookup_paired name
  | list => exact list_paired

end RealmMemory

end RealmDriver
