import Mathlib.Data.String.Basic
import RealmDriver.Proofs.Frame
import RealmDriver.Proofs.Quota.Amount
import RealmDriver.Proofs.Realm.Field

namespace RealmDriver

theorem VolumeName.strip_head? (name : String) : (strip name).toList.head? ≠ some '/' := by
  intro hslash
  have hnot := List.head?_dropWhile_not (· = '/') name.toList
  rw [strip, String.toList_ofList] at hslash
  rw [hslash] at hnot
  simp at hnot

structure VolumeRecord.Sound (key : String) (record : VolumeRecord) : Prop where
  name : record.name = key
  bare : key.toList.head? ≠ some '/'
  amount : ∀ b, (record.quota b).IsAmount
  ordered : Enlargement.Ordered record.quota

namespace RealmMemory

variable {m m' : RealmMemory} {name : String} {parameters : Dictionary}

/-- Holds of every record that is stored, and of what it is stored under. -/
def Stored (P : String → VolumeRecord → Prop) (m : RealmMemory) : Prop :=
  ∀ (key : String) (record : VolumeRecord), m.volumes[key]? = some record → P key record

def Sound (m : RealmMemory) : Prop :=
  ∀ (key : String) (record : VolumeRecord), m.volumes[key]? = some record → record.Sound key

section

variable {P : String → VolumeRecord → Prop}

theorem stored_of_volumes_eq (h : m'.volumes = m.volumes) (hm : Stored P m) : Stored P m' := by
  intro key record hrecord
  rw [h] at hrecord
  exact hm key record hrecord

theorem stored_of_empty (h : m.volumes = ∅) : Stored P m := by
  intro key record hrecord
  simp [h] at hrecord

theorem Stored.changed {changed : String} (hm : Stored P m) (now : Option VolumeRecord)
    (hnow : ∀ record, now = some record → P changed record)
    (h : ∀ key, m'.volumes[key]? = if changed = key then now else m.volumes[key]?) : Stored P m' := by
  intro key record hrecord
  rw [h] at hrecord
  by_cases hkey : changed = key
  · rw [if_pos hkey] at hrecord
    exact hkey ▸ hnow record hrecord
  · rw [if_neg hkey] at hrecord
    exact hm key record hrecord

theorem create_stored (h : ∀ (m : RealmMemory) record, m.created name parameters = .ok record →
    P (VolumeName.strip name) record) : (create name parameters).Within (Keeping (Stored P)) := by
  intro m hm
  rw [create_outcome]
  cases hcreated : m.created name parameters with
  | error e => exact stored_of_volumes_eq rfl hm
  | ok record =>
    apply hm.changed (some record)
    · rintro _ ⟨⟩
      exact h m record hcreated
    · intro key
      rw [insert_volumes, attempted_volumes, created_name hcreated]

theorem expand_stored {bytes : Int}
    (h : ∀ key record, P key record → P key (grown record (Quota.ofBytes bytes))) :
    (expand name bytes).Within (Keeping (Stored P)) := by
  intro m hm
  rw [expand_outcome]
  split
  · exact stored_of_volumes_eq rfl hm
  · exact stored_of_volumes_eq rfl hm
  · rename_i record _ hrecord
    apply hm.changed (some (grown record (Quota.ofBytes bytes)))
    · rintro _ ⟨⟩
      exact h _ _ (hm _ record hrecord)
    · intro key
      rw [enlarged_volumes]

theorem delete_stored : (delete name).Within (Keeping (Stored P)) := by
  intro m hm
  rw [delete_outcome]
  split
  · exact stored_of_volumes_eq rfl hm
  · exact stored_of_volumes_eq rfl hm
  · apply hm.changed none
    · rintro _ ⟨⟩
    · intro key
      rw [without_volumes]

theorem lookup_stored : (lookup name).Within (Keeping (Stored P)) := by
  intro m hm
  rw [lookup_outcome]
  exact stored_of_volumes_eq rfl hm

end

theorem sound_of_volumes_eq (h : m'.volumes = m.volumes) (hm : m.Sound) : m'.Sound :=
  stored_of_volumes_eq h hm

theorem sound_of_empty (h : m.volumes = ∅) : m.Sound := stored_of_empty h

theorem newRecord_quota (m : RealmMemory) (name : String) (parameters : Dictionary)
    (q : Bound → Quota) : (m.newRecord name parameters (q .soft) (q .hard)).quota = q := by
  funext b
  cases b with
  | soft => exact newRecord_soft m name parameters _ _
  | hard => exact newRecord_hard m name parameters _ _

/-- The quotas that some parameters ask for are amounts, and the hard one is none or not below the soft
one. -/
def InOrder (parameters : Dictionary) : Prop :=
  ∃ q : Bound → Quota, (∀ b, quota parameters b = .ok (q b)) ∧ (∀ b, (q b).IsAmount) ∧
    Enlargement.Ordered q

theorem create_keeping (h : InOrder parameters) :
    (create name parameters).Within (Keeping Sound) := by
  refine create_stored fun m record hcreated ↦ ?_
  obtain ⟨q, hq, hamount, hordered⟩ := h
  obtain ⟨-, soft, hard, hsoft, hhard, hnew⟩ := of_created_ok hcreated
  rw [hq] at hsoft hhard
  cases hsoft
  cases hhard
  -- the record has the quotas that were read, and these are in order
  have hquota : record.quota = q := by rw [hnew, newRecord_quota]
  exact ⟨created_name hcreated, VolumeName.strip_head? name, hquota ▸ hamount, hquota ▸ hordered⟩

theorem grown_sound {key : String} {record : VolumeRecord} {target : Quota}
    (htarget : target.IsAmount) (h : record.Sound key) : (grown record target).Sound key := by
  obtain ⟨r, hr, -⟩ := Quota.isAmount_iff.1 htarget
  refine ⟨h.name, h.bare, ?_, ?_⟩
  · intro b
    rw [Enlargement.grown_quota]
    cases b with
    | soft => rwa [Enlargement.finished_soft]
    | hard =>
      rw [Enlargement.finished_hard]
      split
      · exact htarget
      · exact h.amount .hard
  · rw [Enlargement.grown_quota]
    exact Enlargement.ordered_finished hr h.ordered (h.amount .hard).nonneg

theorem expand_keeping {bytes : Int} (h : (Quota.ofBytes bytes).IsAmount) :
    (expand name bytes).Within (Keeping Sound) := expand_stored fun _ _ ↦ grown_sound h

theorem delete_keeping : (delete name).Within (Keeping Sound) := delete_stored

theorem lookup_keeping : (lookup name).Within (Keeping Sound) := lookup_stored

section

variable {κ β : Type} {cmp : κ → κ → Ordering} [Std.TransCmp cmp]

theorem values_eq (t : Std.ExtTreeMap κ β cmp) : t.values = t.toList.map Prod.snd := by
  obtain ⟨⟨⟨t⟩⟩⟩ := t
  change t.inner.values = (Std.DTreeMap.Internal.Impl.Const.toList t.inner).map _
  rw [Std.DTreeMap.Internal.Impl.values_eq_map_snd,
    Std.DTreeMap.Internal.Impl.Const.toList_eq_toListModel_map]
  simp

theorem mem_values [Std.LawfulEqCmp cmp] {t : Std.ExtTreeMap κ β cmp} {v : β} :
    v ∈ t.values ↔ ∃ k : κ, t[k]? = some v := by
  rw [values_eq, List.mem_map]
  constructor
  · rintro ⟨⟨k, v⟩, hmem, rfl⟩
    exact ⟨k, Std.ExtTreeMap.mem_toList_iff_getElem?_eq_some.1 hmem⟩
  · rintro ⟨k, hk⟩
    exact ⟨(k, v), Std.ExtTreeMap.mem_toList_iff_getElem?_eq_some.2 hk, rfl⟩

end

theorem of_list_ok {records : List VolumeRecord} (h : (list.outcome m).1 = .ok records) :
    records = m.volumes.values := by
  rw [list_outcome] at h
  cases hentry : m.admission with
  | error e =>
    rw [hentry] at h
    cases h
  | ok =>
    rw [hentry] at h
    cases h
    rfl

theorem Sound.names_pairwise (hm : m.Sound) :
    (m.volumes.values.map VolumeRecord.name).Pairwise (· < ·) := by
  rw [values_eq, List.map_map, List.pairwise_map]
  -- the map lists its values by key, and each key is the name of its record
  apply Std.ExtTreeMap.ordered_keys_toList.imp_of_mem
  rintro ⟨key, record⟩ ⟨key', record'⟩ hmem hmem' hlt
  have hname := (hm key record (Std.ExtTreeMap.mem_toList_iff_getElem?_eq_some.1 hmem)).name
  have hname' := (hm key' record' (Std.ExtTreeMap.mem_toList_iff_getElem?_eq_some.1 hmem')).name
  change record.name < record'.name
  rw [hname, hname']
  exact compare_lt_iff_lt.1 hlt

end RealmMemory

end RealmDriver
