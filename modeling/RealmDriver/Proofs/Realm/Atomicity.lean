import RealmDriver.Proofs.Realm.Alike

namespace RealmDriver.RealmMemory

/-- The call fails with a failure of some kind, and what is stored stays. -/
def Refuses {α : Type} (kinds : RealmError.Kind → Prop) (m : RealmMemory)
    (call : Action RealmMemory RealmError α) : Prop :=
  ∃ e m', call.outcome m = (.error e, m') ∧ kinds e.kind ∧ m'.volumes = m.volumes

variable {m m' : RealmMemory} {name : String} {parameters : Dictionary} {e : RealmError}

theorem of_create_error (h : (create name parameters).outcome m = (.error e, m')) :
    m.created name parameters = .error e ∧ m' = m.attempted := by
  rw [create_outcome] at h
  cases hcreated : m.created name parameters with
  | ok record =>
    rw [hcreated] at h
    cases h
  | error e' =>
    rw [hcreated] at h
    cases h
    exact ⟨rfl, rfl⟩

theorem of_delete_error (h : (delete name).outcome m = (.error e, m')) : m' = m.called := by
  rw [delete_outcome] at h
  split at h
  · cases h
    rfl
  · exact (congrArg Prod.snd h).symm
  · cases h

theorem volumes_of_error {α : Type} {op : Realm.Operation α} {secrets : Dictionary}
    (h : (realm.perform secrets op).outcome m = (.error e, m')) : m'.volumes = m.volumes := by
  cases op with
  | create name parameters => rw [(of_create_error h).2, attempted_volumes]
  | delete name => rw [of_delete_error h, called_volumes]
  | expand name bytes => rw [of_expand_error m name bytes h, called_volumes]
  | lookup name => exact congrArg (·.2.volumes) (h.symm.trans (lookup_outcome m name))
  | list => exact congrArg (·.2.volumes) (h.symm.trans (list_outcome m))

theorem perform_sameAt {α : Type} {keys : String → Prop} (op : Realm.Operation α) (secrets : Dictionary)
    (h : ∀ name, op.changed? = some name → ¬keys (VolumeName.strip name)) (m : RealmMemory) :
    SameAt keys m ((realm.perform secrets op).outcome m).2 := by
  cases op with
  | create name parameters => exact create_sameAt parameters (h name rfl)
  | delete name => exact delete_sameAt (h name rfl)
  | expand name bytes => exact expand_sameAt bytes (h name rfl)
  | lookup name => exact lookup_sameAt
  | list => exact list_sameAt

theorem create_of_present (hm : m.admission = .ok ()) (h : (m.record? name).isSome) :
    (create name parameters).outcome m = (.error (taken name), m.attempted) := by
  rw [create_outcome, created_of_present hm h]

theorem present_of_taken (hm : m.failure = none) (h : m.created name parameters = .error e)
    (hkind : e.kind = .alreadyExists) : (m.record? name).isSome := by
  cases hrecord : m.record? name with
  | some record => rfl
  | none =>
    obtain ⟨b, hb⟩ := quota_of_created_error (admission_of_no_failure hm) hrecord h
    exact absurd (hkind.symm.trans (quota_error_kind hb)) (by decide)

theorem create_refuses_iff (hm : m.failure = none) :
    m.Refuses (· = .alreadyExists) (create name parameters) ↔ (m.record? name).isSome := by
  constructor
  · rintro ⟨e, m', h, hkind, -⟩
    exact present_of_taken hm (of_create_error h).1 hkind
  · intro h
    exact ⟨taken name, m.attempted, create_of_present (admission_of_no_failure hm) h, rfl, rfl⟩

theorem delete_refuses_iff (hm : m.failure = none) :
    m.Refuses (fun _ ↦ True) (delete name) ↔ m.record? name = none := by
  rw [Refuses, delete_outcome, admission_of_no_failure hm]
  cases m.record? name with
  | none => simp [classify_missing]
  | some record => simp

theorem expand_refuses_iff (bytes : Int) (hm : m.failure = none) :
    m.Refuses (fun _ ↦ True) (expand name bytes) ↔ m.record? name = none := by
  obtain ⟨e, he⟩ := classify_no_volume (VolumeName.strip name)
  rw [Refuses, expand_outcome, admission_of_no_failure hm]
  cases m.record? name with
  | none => simp [he]
  | some record => simp

/-- A call that fails leaves the stored volumes as they were, whatever it asks for and whatever the realm
was made to answer. Where it was made to answer nothing, a creation is refused as a repetition just if
there is a volume of the name, and a deletion or an enlargement is refused just if there is none. -/
theorem failure_stores_nothing :
    (∀ (m m' : RealmMemory) (α : Type) (op : Realm.Operation α) (secrets : Dictionary) (e : RealmError),
      (realm.perform secrets op).outcome m = (.error e, m') → m'.volumes = m.volumes) ∧
    ∀ (m : RealmMemory) (name : String) (secrets : Dictionary), m.failure = none →
      (∀ parameters, m.Refuses (· = .alreadyExists) (realm.create name parameters secrets) ↔
        (m.record? name).isSome) ∧
      (m.Refuses (fun _ ↦ True) (realm.delete name secrets) ↔ m.record? name = none) ∧
      ∀ bytes, m.Refuses (fun _ ↦ True) (realm.expand name bytes secrets) ↔ m.record? name = none :=
  ⟨fun _ _ _ _ _ _ ↦ volumes_of_error, fun _ _ _ hm ↦
    ⟨fun _ ↦ create_refuses_iff hm, delete_refuses_iff hm, fun bytes ↦ expand_refuses_iff bytes hm⟩⟩

def cheering : RealmMemory := insert { name := "a" } { failure := some "Created successfully" }

theorem failure_stores_nothing_of_cheering :
    (∃ e m', (realm.create "a" ∅ ∅).outcome cheering = (.error e, m') ∧
      m'.volumes = cheering.volumes) ∧
    ({} : RealmMemory).failure = none ∧
    ({} : RealmMemory).Refuses (fun _ ↦ True) (realm.expand "b, successfully" 1 ∅) := by
  have hpresent : (cheering.record? "a").isSome := by
    have hname : VolumeName.strip "a" = "a" := by decide
    rw [cheering, insert_record?, if_pos hname.symm]
    rfl
  have hcreate : (realm.create "a" ∅ ∅).outcome cheering = (.error (taken "a"), cheering.attempted) :=
    create_of_present (by decide +kernel) hpresent
  exact ⟨⟨_, _, hcreate, failure_stores_nothing.1 _ _ _ (.create "a" ∅) ∅ _ hcreate⟩, rfl,
    ((failure_stores_nothing.2 {} "b, successfully" ∅ rfl).2.2 1).2 rfl⟩

end RealmDriver.RealmMemory
