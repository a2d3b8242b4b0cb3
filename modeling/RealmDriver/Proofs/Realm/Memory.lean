import RealmDriver.Proofs.Action
import RealmDriver.Proofs.Text.Phrases
import RealmDriver.Realm.Memory

namespace RealmDriver.RealmMemory

variable (m : RealmMemory) (name : String) (parameters : Dictionary) (bytes : Int)

/-- The volume that a name, with or without leading slashes, stands for. -/
def record? : Option VolumeRecord := m.volumes[VolumeName.strip name]?

def admission : Except RealmError Unit :=
  match m.failure with
  | some text => classify text
  | none => .ok ()

def called : RealmMemory := { m with calls := m.calls + 1 }

def attempted : RealmMemory := { m with calls := m.calls + 1, creations := m.creations + 1 }

@[simp] theorem called_volumes : m.called.volumes = m.volumes := rfl

@[simp] theorem called_failure : m.called.failure = m.failure := rfl

@[simp] theorem called_record? : m.called.record? name = m.record? name := rfl

@[simp] theorem attempted_volumes : m.attempted.volumes = m.volumes := rfl

@[simp] theorem attempted_failure : m.attempted.failure = m.failure := rfl

@[simp] theorem attempted_record? : m.attempted.record? name = m.record? name := rfl

@[simp] theorem attempted_admission : m.attempted.admission = m.admission := rfl

@[simp] theorem insert_failure (record : VolumeRecord) :
    (insert record m).failure = m.failure := rfl

theorem insert_volumes (record : VolumeRecord) (key : String) :
    (insert record m).volumes[key]? = if record.name = key then some record else m.volumes[key]? := by
  simp only [insert, Std.ExtTreeMap.getElem?_insert, Std.LawfulEqOrd.compare_eq_iff_eq]

theorem insert_record? (record : VolumeRecord) :
    (insert record m).record? name =
      if record.name = VolumeName.strip name then some record else m.record? name :=
  insert_volumes m record _

variable {m name} in
theorem admission_of_no_failure (h : m.failure = none) : m.admission = .ok () := by
  rw [admission, h]

theorem enter_outcome : enter.outcome m = (m.admission, m.called) := by
  obtain ⟨volumes, failure, encryption, calls, creations⟩ := m
  cases failure <;> rfl

section

variable (soft hard : Quota)

theorem newRecord_name : (m.newRecord name parameters soft hard).name = name := by
  rw [newRecord]
  split <;> rfl

theorem newRecord_soft : (m.newRecord name parameters soft hard).soft = soft := by
  rw [newRecord]
  split <;> rfl

theorem newRecord_hard : (m.newRecord name parameters soft hard).hard = hard := by
  rw [newRecord]
  split <;> rfl

end

variable {parameters} in
theorem quota_error_kind {b : Bound} {e : RealmError} (h : quota parameters b = .error e) :
    e.kind = .invalidArgument := by
  rw [quota] at h
  split at h
  · cases h
  · split at h
    · cases h
    · cases h
      rfl

def taken : RealmError :=
  ⟨.alreadyExists, Text.trim s!"Error: volume /{VolumeName.strip name} already exists"⟩

/-- The record that a creation would add, or why there is none. -/
def created : Except RealmError VolumeRecord := do
  m.admission
  if (m.record? name).isSome then throw (taken name)
  let soft ← quota parameters .soft
  let hard ← quota parameters .hard
  pure (m.newRecord (VolumeName.strip name) parameters soft hard)

variable {m name parameters} in
theorem of_created_ok {record : VolumeRecord} (h : m.created name parameters = .ok record) :
    m.record? name = none ∧ ∃ soft hard, quota parameters .soft = .ok soft ∧
      quota parameters .hard = .ok hard ∧
      record = m.newRecord (VolumeName.strip name) parameters soft hard := by
  simp only [created, Except.bind_ok_iff, Except.guard_ok_iff] at h
  obtain ⟨-, -, habsent, soft, hsoft, hard, hhard, hrecord⟩ := h
  cases hrecord
  exact ⟨by simpa using habsent, soft, hard, hsoft, hhard, rfl⟩

variable {m name parameters} in
theorem created_name {record : VolumeRecord} (h : m.created name parameters = .ok record) :
    record.name = VolumeName.strip name := by
  obtain ⟨-, soft, hard, -, -, rfl⟩ := of_created_ok h
  exact newRecord_name m _ _ soft hard

section

variable {m name parameters} {e : RealmError} {soft hard : Quota} (hm : m.admission = .ok ())
include hm

theorem created_of_present (h : (m.record? name).isSome) :
    m.created name parameters = .error (taken name) := by
  rw [created, hm, h]
  rfl

theorem created_of_absent (h : m.record? name = none) (hsoft : quota parameters .soft = .ok soft)
    (hhard : quota parameters .hard = .ok hard) :
    m.created name parameters = .ok (m.newRecord (VolumeName.strip name) parameters soft hard) := by
  rw [created, hm, h, hsoft, hhard]
  rfl

theorem quota_of_created_error (h : m.record? name = none) (he : m.created name parameters = .error e) :
    ∃ b, quota parameters b = .error e := by
  cases hsoft : quota parameters .soft with
  | error e' =>
    rw [created, hm, h, hsoft] at he
    cases he
    exact ⟨.soft, hsoft⟩
  | ok soft =>
    cases hhard : quota parameters .hard with
    | error e' =>
      rw [created, hm, h, hsoft, hhard] at he
      cases he
      exact ⟨.hard, hhard⟩
    | ok hard =>
      rw [created_of_absent hm h hsoft hhard] at he
      cases he

end

/-- A creation adds its record, or fails and changes nothing that is stored. -/
theorem create_outcome :
    (create name parameters).outcome m = match m.created name parameters with
      | .ok record => (.ok record, insert record m.attempted)
      | .error e => (.error e, m.attempted) := by
  have henter : enter.outcome { m with creations := m.creations + 1 } =
      (m.admission, m.attempted) := enter_outcome _
  have hsome : m.attempted.volumes.contains (VolumeName.strip name) = (m.record? name).isSome :=
    Std.ExtTreeMap.contains_eq_isSome_getElem?
  simp only [create, created, Action.outcome_bind, Action.outcome_modify, henter]
  cases hadmit : m.admission with
  | error e => rfl
  | ok =>
    simp only [Action.outcome_get, hsome]
    cases hrecord : (m.record? name).isSome with
    | true =>
      rw [if_pos rfl, if_pos rfl, classify_already_exists]
      rfl
    | false =>
      rw [if_neg Bool.false_ne_true, if_neg Bool.false_ne_true]
      cases hsoft : quota parameters .soft with
      | error e => rfl
      | ok soft =>
        cases hhard : quota parameters .hard with
        | error e => rfl
        | ok hard => rfl

def found : Except RealmError VolumeRecord := do
  m.admission
  match m.record? name with
  | some record => pure record
  | none => throw ⟨.notFound, s!"No volume with name /{VolumeName.strip name}"⟩

theorem lookup_outcome : (lookup name).outcome m = (m.found name, m.called) := by
  simp only [lookup, found, Action.outcome_bind, enter_outcome]
  cases hadmit : m.admission with
  | error e => rfl
  | ok =>
    have hrecord : m.called.volumes[VolumeName.strip name]? = m.record? name := rfl
    simp only [Action.outcome_get, hrecord]
    cases m.record? name <;> rfl

theorem list_outcome : list.outcome m = (m.admission.map fun _ ↦ m.volumes.values, m.called) := by
  simp only [list, Action.outcome_bind, enter_outcome]
  cases m.admission <;> rfl

def enlarged (record : VolumeRecord) : RealmMemory :=
  { m.called with
    volumes := m.volumes.insert (VolumeName.strip name) (grown record (Quota.ofBytes bytes)) }

@[simp] theorem enlarged_failure (record : VolumeRecord) :
    (m.enlarged name bytes record).failure = m.failure := rfl

theorem enlarged_volumes (record : VolumeRecord) (key : String) :
    (m.enlarged name bytes record).volumes[key]? =
      if VolumeName.strip name = key then some (grown record (Quota.ofBytes bytes))
      else m.volumes[key]? := by
  simp only [enlarged, Std.ExtTreeMap.getElem?_insert, Std.LawfulEqOrd.compare_eq_iff_eq]

@[simp] theorem enlarged_record? (record : VolumeRecord) :
    (m.enlarged name bytes record).record? name = some (grown record (Quota.ofBytes bytes)) := by
  rw [record?, enlarged_volumes, if_pos rfl]

theorem expand_outcome :
    (expand name bytes).outcome m = match m.admission, m.record? name with
      | .error e, _ => (.error e, m.called)
      | .ok (), none => (classify s!"No volume with name /{VolumeName.strip name}", m.called)
      | .ok (), some record => (.ok (), m.enlarged name bytes record) := by
  simp only [expand, Action.outcome_bind, enter_outcome]
  cases hadmit : m.admission with
  | error e => rfl
  | ok =>
    have hrecord : m.called.volumes[VolumeName.strip name]? = m.record? name := rfl
    simp only [Action.outcome_get, hrecord]
    cases m.record? name <;> rfl

theorem of_expand_ok {m' : RealmMemory} (h : (expand name bytes).outcome m = (.ok (), m')) :
    ∃ record, m.record? name = some record ∧ m' = m.enlarged name bytes record := by
  rw [expand_outcome] at h
  split at h
  · cases h
  · obtain ⟨e, he⟩ := classify_no_volume (VolumeName.strip name)
    rw [he] at h
    cases h
  · cases h
    exact ⟨_, ‹_›, rfl⟩

theorem of_expand_error {m' : RealmMemory} {e : RealmError}
    (h : (expand name bytes).outcome m = (.error e, m')) : m' = m.called := by
  rw [expand_outcome] at h
  split at h
  · cases h
    rfl
  · exact (congrArg Prod.snd h).symm
  · cases h

def without : RealmMemory :=
  { m.called with volumes := m.volumes.erase (VolumeName.strip name) }

theorem without_volumes (key : String) :
    (m.without name).volumes[key]? = if VolumeName.strip name = key then none else m.volumes[key]? := by
  simp only [without, Std.ExtTreeMap.getElem?_erase, Std.LawfulEqOrd.compare_eq_iff_eq]

theorem delete_outcome :
    (delete name).outcome m = match m.admission, m.record? name with
      | .error e, _ => (.error e, m.called)
      | .ok (), none => (classify "Error: volume(s) do not exist", m.called)
      | .ok (), some _ => (.ok (), m.without name) := by
  have hsome : m.called.volumes.contains (VolumeName.strip name) = (m.record? name).isSome :=
    Std.ExtTreeMap.contains_eq_isSome_getElem?
  simp only [delete, Action.outcome_bind, enter_outcome]
  cases hadmit : m.admission with
  | error e => rfl
  | ok =>
    simp only [Action.outcome_get, hsome]
    cases m.record? name <;> rfl

/-- A change that leaves the volumes under some keys alone and brings about no failure. -/
structure SameAt (keys : String → Prop) (m m' : RealmMemory) : Prop where
  failure : m'.failure = m.failure
  volumes : ∀ key, keys key → m'.volumes[key]? = m.volumes[key]?

variable {m name} {keys : String → Prop}

theorem create_sameAt (h : ¬keys (VolumeName.strip name)) :
    SameAt keys m ((create name parameters).outcome m).2 := by
  rw [create_outcome]
  cases hcreated : m.created name parameters with
  | error e => exact ⟨rfl, fun _ _ ↦ rfl⟩
  | ok record =>
    refine ⟨rfl, fun key hkey ↦ ?_⟩
    rw [insert_volumes, if_neg, attempted_volumes]
    rintro rfl
    exact h (created_name hcreated ▸ hkey)

theorem expand_sameAt (h : ¬keys (VolumeName.strip name)) :
    SameAt keys m ((expand name bytes).outcome m).2 := by
  rw [expand_outcome]
  split
  · exact ⟨rfl, fun _ _ ↦ rfl⟩
  · exact ⟨rfl, fun _ _ ↦ rfl⟩
  · refine ⟨rfl, fun key hkey ↦ ?_⟩
    rw [enlarged_volumes, if_neg]
    rintro rfl
    exact h hkey

theorem delete_sameAt (h : ¬keys (VolumeName.strip name)) :
    SameAt keys m ((delete name).outcome m).2 := by
  rw [delete_outcome]
  split
  · exact ⟨rfl, fun _ _ ↦ rfl⟩
  · exact ⟨rfl, fun _ _ ↦ rfl⟩
  · refine ⟨rfl, fun key hkey ↦ ?_⟩
    rw [without_volumes, if_neg]
    rintro rfl
    exact h hkey

theorem lookup_sameAt : SameAt keys m ((lookup name).outcome m).2 := by
  rw [lookup_outcome]
  exact ⟨rfl, fun _ _ ↦ rfl⟩

theorem list_sameAt : SameAt keys m (list.outcome m).2 := by
  rw [list_outcome]
  exact ⟨rfl, fun _ _ ↦ rfl⟩

end RealmDriver.RealmMemory
