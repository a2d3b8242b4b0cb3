import Std.Data.String.ToNat
import RealmDriver.Proofs.Realm.Alike
import RealmDriver.Proofs.Realm.Soundness

namespace RealmDriver.RealmMemory

structure Call where
  {α : Type}
  op : Realm.Operation α
  secrets : Dictionary := ∅

def step (m : RealmMemory) (c : Call) : RealmMemory :=
  ((realm.perform c.secrets c.op).outcome m).2

def after (m : RealmMemory) (calls : List Call) : RealmMemory := calls.foldl step m

def id? (m : RealmMemory) (key : String) : Option String := m.volumes[key]?.map VolumeRecord.id

/-- No two of the stored volumes have one id. -/
def DistinctIds (m : RealmMemory) : Prop :=
  ∀ key key' id, m.id? key = some id → m.id? key' = some id → key = key'

/-- Whatever volume is gone behind a call had the number of all volumes for its id. -/
def TakesLast (m : RealmMemory) (c : Call) : Prop :=
  ∀ key id, m.id? key = some id → (m.step c).id? key = none → id = toString m.volumes.size

/-- No call of a run takes out another volume than the last. -/
def TakesLasts : RealmMemory → List Call → Prop
  | _, [] => True
  | m, c :: calls => m.TakesLast c ∧ TakesLasts (m.step c) calls

/-- The ids are the numbers from one up, each of them once. -/
structure Numbered (m : RealmMemory) : Prop where
  numbers : ∀ id, (∃ key, m.id? key = some id) ↔ ∃ k < m.volumes.size, id = toString (k + 1)
  distinct : m.DistinctIds

inductive Course (m : RealmMemory) : RealmMemory → Prop
  | same {m' : RealmMemory} (h : m'.volumes = m.volumes) : Course m m'
  | added {name : String} {parameters : Dictionary} {record : VolumeRecord}
      (h : m.created name parameters = .ok record) : Course m (insert record m.attempted)
  | enlarged {name : String} (bytes : Int) {record : VolumeRecord} (h : m.record? name = some record) :
      Course m (m.enlarged name bytes record)
  | removed {name : String} {record : VolumeRecord} (hadmitted : m.admission = .ok ())
      (h : m.record? name = some record) : Course m (m.without name)

variable {m m' : RealmMemory} {name key id : String} {parameters : Dictionary} {record : VolumeRecord}

theorem step_course (m : RealmMemory) (c : Call) : Course m (m.step c) := by
  obtain ⟨op, secrets⟩ := c
  cases op with
  | create name parameters =>
    change Course m ((create name parameters).outcome m).2
    rw [create_outcome]
    cases hcreated : m.created name parameters with
    | error e => exact .same rfl
    | ok record => exact .added hcreated
  | delete name =>
    change Course m ((delete name).outcome m).2
    rw [delete_outcome]
    split
    · exact .same rfl
    · exact .same rfl
    · exact .removed ‹_› ‹_›
  | expand name bytes =>
    change Course m ((expand name bytes).outcome m).2
    rw [expand_outcome]
    split
    · exact .same rfl
    · exact .same rfl
    · exact .enlarged bytes ‹_›
  | lookup name =>
    change Course m ((lookup name).outcome m).2
    rw [lookup_outcome]
    exact .same rfl
  | list =>
    change Course m (list.outcome m).2
    rw [list_outcome]
    exact .same rfl

section Ids

theorem insert_id? (record : VolumeRecord) (m : RealmMemory) (key : String) :
    (insert record m).id? key = if record.name = key then some record.id else m.id? key := by
  rw [id?, insert_volumes]
  split <;> rfl

theorem without_id? (m : RealmMemory) (name key : String) :
    (m.without name).id? key = if VolumeName.strip name = key then none else m.id? key := by
  rw [id?, without_volumes]
  split <;> rfl

theorem enlarged_id? (bytes : Int) (h : m.record? name = some record) (key : String) :
    (m.enlarged name bytes record).id? key = m.id? key := by
  rw [id?, enlarged_volumes]
  split
  · rename_i hkey
    rw [id?, ← hkey, ← record?, h]
    rfl
  · rfl

theorem contains_eq (m : RealmMemory) (name : String) :
    m.volumes.contains (VolumeName.strip name) = (m.record? name).isSome :=
  Std.ExtTreeMap.contains_eq_isSome_getElem?

theorem id?_strip (h : m.record? name = some record) :
    m.id? (VolumeName.strip name) = some record.id := by
  rw [id?, ← record?, h]
  rfl

theorem newRecord_id (m : RealmMemory) (name : String) (parameters : Dictionary) (soft hard : Quota) :
    (m.newRecord name parameters soft hard).id = toString (m.volumes.size + 1) := by
  rw [newRecord]
  split <;> rfl

theorem size_without (h : m.record? name = some record) :
    (m.without name).volumes.size + 1 = m.volumes.size := by
  have hcontains : m.volumes.contains (VolumeName.strip name) = true := by rw [contains_eq, h]; rfl
  have hpos : m.volumes.size ≠ 0 := by
    intro hzero
    rw [← Std.ExtTreeMap.eq_empty_iff_size_eq_zero] at hzero
    simp [hzero] at hcontains
  rw [without, Std.ExtTreeMap.size_erase, if_pos hcontains]
  omega

end Ids

theorem numbered_of_empty (h : m.volumes = ∅) : Numbered m := by
  have hnone (key : String) : m.id? key = none := by simp [id?, h]
  constructor
  · simp [hnone, h]
  · intro key key' id hid
    rw [hnone] at hid
    cases hid

namespace Numbered

theorem congr (hm : Numbered m) (hids : m'.id? = m.id?) (hsize : m'.volumes.size = m.volumes.size) :
    Numbered m' := by
  constructor
  · rw [hids, hsize]
    exact hm.numbers
  · rw [DistinctIds, hids]
    exact hm.distinct

theorem ne_next (hm : Numbered m) (h : m.id? key = some id) : id ≠ toString (m.volumes.size + 1) := by
  obtain ⟨k, hk, rfl⟩ := (hm.numbers id).1 ⟨key, h⟩
  intro hnext
  have := Nat.repr_injective hnext
  omega

theorem added (hm : Numbered m) (hnew : m.id? key = none)
    (hids : ∀ k, m'.id? k = if key = k then some (toString (m.volumes.size + 1)) else m.id? k)
    (hsize : m'.volumes.size = m.volumes.size + 1) : Numbered m' := by
  have hcases {k id : String} (hk : m'.id? k = some id) :
      key = k ∧ id = toString (m.volumes.size + 1) ∨ m.id? k = some id := by
    rw [hids] at hk
    split at hk
    · exact .inl ⟨‹key = k›, (Option.some_inj.1 hk).symm⟩
    · exact .inr hk
  constructor
  · intro id
    rw [hsize]
    constructor
    · rintro ⟨k, hk⟩
      obtain ⟨-, hid⟩ | hk := hcases hk
      · exact ⟨m.volumes.size, by omega, hid⟩
      · obtain ⟨n, hn, hid⟩ := (hm.numbers id).1 ⟨k, hk⟩
        exact ⟨n, by omega, hid⟩
    · rintro ⟨n, hn, hid⟩
      by_cases hlast : n = m.volumes.size
      · exact ⟨key, by rw [hids, if_pos rfl, hid, hlast]⟩
      · obtain ⟨k, hk⟩ := (hm.numbers id).2 ⟨n, by omega, hid⟩
        have hkey : key ≠ k := by
          intro hkey
          rw [← hkey, hnew] at hk
          cases hk
        exact ⟨k, by rw [hids, if_neg hkey, hk]⟩
  · intro k k' id hk hk'
    obtain ⟨hkey, hid⟩ | hk := hcases hk
    · obtain ⟨hkey', -⟩ | hk' := hcases hk'
      · exact hkey.symm.trans hkey'
      · exact absurd hid (hm.ne_next hk')
    · obtain ⟨-, hid⟩ | hk' := hcases hk'
      · exact absurd hid (hm.ne_next hk)
      · exact hm.distinct k k' id hk hk'

theorem removed (hm : Numbered m) (hlast : m.id? key = some (toString m.volumes.size))
    (hids : ∀ k, m'.id? k = if key = k then none else m.id? k)
    (hsize : m'.volumes.size + 1 = m.volumes.size) : Numbered m' := by
  have hcases {k id : String} (hk : m'.id? k = some id) : key ≠ k ∧ m.id? k = some id := by
    rw [hids] at hk
    split at hk
    · cases hk
    · exact ⟨‹key ≠ k›, hk⟩
  constructor
  · intro id
    constructor
    · rintro ⟨k, hk⟩
      obtain ⟨hkey, hk⟩ := hcases hk
      obtain ⟨n, hn, hid⟩ := (hm.numbers id).1 ⟨k, hk⟩
      refine ⟨n, ?_, hid⟩
      -- the last number was that of the volume that is gone
      by_contra hgreat
      have hn : n + 1 = m.volumes.size := by omega
      rw [hid, hn] at hk
      exact hkey (hm.distinct key k _ hlast hk)
    · rintro ⟨n, hn, hid⟩
      obtain ⟨k, hk⟩ := (hm.numbers id).2 ⟨n, by omega, hid⟩
      refine ⟨k, ?_⟩
      rw [hids, if_neg, hk]
      intro hkey
      rw [← hkey, hlast, hid, Option.some_inj] at hk
      have := Nat.repr_injective hk
      omega
  · intro k k' id hk hk'
    exact hm.distinct k k' id (hcases hk).2 (hcases hk').2

end Numbered

section Steps

theorem id?_of_created (h : m.created name parameters = .ok record) (key : String) :
    (insert record m.attempted).id? key =
      if VolumeName.strip name = key then some (toString (m.volumes.size + 1)) else m.id? key := by
  obtain ⟨-, soft, hard, -, -, hrecord⟩ := of_created_ok h
  rw [insert_id?, created_name h, hrecord, newRecord_id]
  rfl

theorem size_of_created (h : m.created name parameters = .ok record) :
    (insert record m.attempted).volumes.size = m.volumes.size + 1 := by
  rw [insert, created_name h, Std.ExtTreeMap.size_insert, attempted_volumes, contains_eq,
    (of_created_ok h).1]
  rfl

theorem exists_created_without (name : String) (hadmitted : m.admission = .ok ()) :
    ∃ record, (m.without name).created name ∅ = .ok record := by
  have hquota (b : Bound) : quota ∅ b = .ok Binary64.zero := by
    rw [quota]
    simp
  have habsent : (m.without name).record? name = none := by
    rw [record?, without_volumes, if_pos rfl]
  exact ⟨_, created_of_absent hadmitted habsent (hquota .soft) (hquota .hard)⟩

theorem DistinctIds.without (hm : m.DistinctIds) (name : String) : (m.without name).DistinctIds := by
  intro key key' id hkey hkey'
  rw [without_id?] at hkey hkey'
  split at hkey
  · cases hkey
  · split at hkey'
    · cases hkey'
    · exact hm key key' id hkey hkey'

namespace Numbered

/-- A call goes on with the numbering and keeps every id, or takes a volume out. -/
theorem course (hm : Numbered m) (h : Course m m') :
    (Numbered m' ∧ ∀ key id, m.id? key = some id → m'.id? key = some id) ∨
      ∃ name record, m.admission = .ok () ∧ m.record? name = some record ∧ m' = m.without name := by
  cases h with
  | same hsame =>
    have hids : m'.id? = m.id? := by
      funext key
      rw [id?, id?, hsame]
    exact .inl ⟨hm.congr hids (by rw [hsame]), fun key id hid ↦ by rw [hids, hid]⟩
  | @added name _ record hcreated =>
    have hnew : m.id? (VolumeName.strip name) = none := by
      rw [id?, ← record?, (of_created_ok hcreated).1]
      rfl
    refine .inl ⟨hm.added hnew (id?_of_created hcreated) (size_of_created hcreated), ?_⟩
    intro key id hid
    rw [id?_of_created hcreated, if_neg, hid]
    intro hkey
    rw [← hkey, hnew] at hid
    cases hid
  | @enlarged name bytes record hrecord =>
    have hids := enlarged_id? bytes hrecord
    refine .inl ⟨hm.congr (funext hids) ?_, fun key id hid ↦ by rw [hids, hid]⟩
    rw [enlarged, Std.ExtTreeMap.size_insert, if_pos]
    rw [contains_eq, hrecord]
    rfl
  | removed hadmitted hrecord => exact .inr ⟨_, _, hadmitted, hrecord, rfl⟩

theorem step (hm : Numbered m) {c : Call} (hlast : m.TakesLast c) : Numbered (m.step c) := by
  obtain ⟨hstep, -⟩ | ⟨name, record, -, hrecord, hstep⟩ := hm.course (step_course m c)
  · exact hstep
  · have hid := id?_strip hrecord
    have hgone : (m.step c).id? (VolumeName.strip name) = none := by rw [hstep, without_id?, if_pos rfl]
    rw [hlast _ _ hid hgone] at hid
    rw [hstep]
    exact hm.removed hid (without_id? m name) (size_without hrecord)

theorem distinctIds_step (hm : Numbered m) (c : Call) : (m.step c).DistinctIds := by
  obtain ⟨hstep, -⟩ | ⟨name, record, -, -, hstep⟩ := hm.course (step_course m c)
  · exact hstep.distinct
  · rw [hstep]
    exact hm.distinct.without name

/-- Where another volume than the last is taken out, the next one gets the number of the last. -/
theorem not_distinctIds_added (hm : Numbered m) (hrecord : m.record? name = some record)
    (hother : record.id ≠ toString m.volumes.size) {again : VolumeRecord}
    (hagain : (m.without name).created name parameters = .ok again) :
    ¬(insert again (m.without name).attempted).DistinctIds := by
  intro hdistinct
  have hsize := size_without hrecord
  have hids (key : String) : (insert again (m.without name).attempted).id? key =
      if VolumeName.strip name = key then some (toString m.volumes.size) else m.id? key := by
    rw [id?_of_created hagain, hsize, without_id?]
    split <;> rfl
  have hnumber : ∃ k < m.volumes.size, toString m.volumes.size = toString (k + 1) :=
    ⟨m.volumes.size - 1, by omega, by congr 1; omega⟩
  obtain ⟨last, hlast⟩ := (hm.numbers _).2 hnumber
  have hne : VolumeName.strip name ≠ last := by
    intro hname
    rw [← hname, id?_strip hrecord, Option.some_inj] at hlast
    exact hother hlast
  refine hne (hdistinct _ last (toString m.volumes.size) ?_ ?_)
  · rw [hids, if_pos rfl]
  · rw [hids, if_neg hne, hlast]

theorem takesLast_iff (hm : Numbered m) (c : Call) :
    m.TakesLast c ↔ ∀ c', ((m.step c).step c').DistinctIds := by
  refine ⟨fun hlast ↦ (hm.step hlast).distinctIds_step, fun hdistinct key id hid hgone ↦ ?_⟩
  obtain ⟨-, hkept⟩ | ⟨name, record, hadmitted, hrecord, hstep⟩ := hm.course (step_course m c)
  · rw [hkept key id hid] at hgone
    cases hgone
  · have hname : VolumeName.strip name = key := by
      by_contra hne
      rw [hstep, without_id?, if_neg hne, hid] at hgone
      cases hgone
    rw [← hname, id?_strip hrecord, Option.some_inj] at hid
    by_contra hother
    -- the same name again
    obtain ⟨again, hagain⟩ := exists_created_without name hadmitted
    refine hm.not_distinctIds_added hrecord (hid ▸ hother) hagain ?_
    have hnext : (m.step c).step ⟨.create name ∅, ∅⟩ = insert again (m.without name).attempted := by
      change ((create name ∅).outcome (m.step c)).2 = _
      rw [hstep, create_outcome, hagain]
    exact hnext ▸ hdistinct ⟨.create name ∅, ∅⟩

end Numbered

end Steps

theorem takesLast_of_kept {c : Call} (h : (m.step c).id? = m.id?) : m.TakesLast c := by
  intro key id hid hgone
  rw [h, hid] at hgone
  cases hgone

theorem takesLast_create (name : String) (parameters secrets : Dictionary) :
    m.TakesLast ⟨.create name parameters, secrets⟩ := by
  have hstep : m.step ⟨.create name parameters, secrets⟩ = ((create name parameters).outcome m).2 := rfl
  rw [create_outcome] at hstep
  split at hstep
  · intro key id hid hgone
    rw [hstep, insert_id?] at hgone
    split at hgone
    · cases hgone
    · exact absurd (hid.symm.trans hgone) (Option.some_ne_none id)
  · exact takesLast_of_kept (hstep ▸ rfl)

theorem takesLast_delete_iff {secrets : Dictionary} : m.TakesLast ⟨.delete name, secrets⟩ ↔
    (m.admission = .ok () → ∀ id, m.id? (VolumeName.strip name) = some id →
      id = toString m.volumes.size) := by
  have hstep : m.step ⟨.delete name, secrets⟩ = ((delete name).outcome m).2 := rfl
  rw [delete_outcome] at hstep
  split at hstep
  · rename_i e hadmitted
    exact iff_of_true (takesLast_of_kept (hstep ▸ rfl)) fun h ↦ by rw [hadmitted] at h; cases h
  · rename_i hadmitted hrecord
    refine iff_of_true (takesLast_of_kept (hstep ▸ rfl)) fun _ id hid ↦ ?_
    rw [id?, ← record?, hrecord] at hid
    cases hid
  · rename_i record hadmitted hrecord
    constructor
    · intro hlast _ id hid
      exact hlast _ id hid (by rw [hstep, without_id?, if_pos rfl])
    · intro hlast key id hid hgone
      rw [hstep, without_id?] at hgone
      split at hgone
      · rename_i hname
        exact hlast hadmitted id (hname ▸ hid)
      · exact absurd (hid.symm.trans hgone) (Option.some_ne_none id)

theorem Numbered.takesLasts_iff (hm : Numbered m) (calls : List Call) :
    m.TakesLasts calls ↔ ∀ front, front <+: calls → ∀ c, ((m.after front).step c).DistinctIds := by
  induction calls generalizing m with
  | nil =>
    refine iff_of_true trivial fun front hfront ↦ ?_
    rw [List.prefix_nil.1 hfront]
    exact hm.distinctIds_step
  | cons c calls ih =>
    constructor
    · intro hlast front hfront
      cases front with
      | nil => exact hm.distinctIds_step
      | cons c' front =>
        obtain ⟨rfl, hrest⟩ := List.cons_prefix_cons.1 hfront
        exact (ih (hm.step hlast.1)).1 hlast.2 front hrest
    · intro hdistinct
      have hfirst : m.TakesLast c :=
        (hm.takesLast_iff c).2 (hdistinct [c] (List.cons_prefix_cons.2 ⟨rfl, List.nil_prefix⟩))
      refine ⟨hfirst, (ih (hm.step hfirst)).2 fun front hfront ↦ ?_⟩
      exact hdistinct (c :: front) (List.cons_prefix_cons.2 ⟨rfl, hfront⟩)

theorem Numbered.run (hm : Numbered m) (calls : List Call) (hlast : m.TakesLasts calls) :
    Numbered (m.after calls) := by
  induction calls generalizing m with
  | nil => exact hm
  | cons c calls ih => exact ih (hm.step hlast.1) hlast.2

/-- **Ids stay apart just as long as the last volume is the one that goes.** From a realm without volumes,
a run of calls takes out no volume but the one with the greatest number, if and only if at no point of
it one more call, of whatever kind, leads to two volumes with one id. Then the ids are just the numbers up to
the number of volumes. -/
theorem distinctIds_iff_takesLasts (h : m.volumes = ∅) (calls : List Call) :
    (m.TakesLasts calls ↔ ∀ front, front <+: calls → ∀ c, ((m.after front).step c).DistinctIds) ∧
      (m.TakesLasts calls → Numbered (m.after calls)) := by
  have hm := numbered_of_empty h
  exact ⟨hm.takesLasts_iff calls, hm.run calls⟩

def creation (name : String) : Call := ⟨.create name ∅, ∅⟩

def deletion (name : String) : Call := ⟨.delete name, ∅⟩

theorem distinctIds_behind_last :
    ({} : RealmMemory).volumes = ∅ ∧
      ((({} : RealmMemory).after [creation "a", creation "b", deletion "b"]).step
        (creation "c")).DistinctIds := by
  have hlast : ({} : RealmMemory).TakesLasts [creation "a", creation "b", deletion "b"] := by
    refine ⟨takesLast_create "a" ∅ ∅, takesLast_create "b" ∅ ∅, ?_, trivial⟩
    refine takesLast_delete_iff.2 fun _ id hid ↦ Option.some_inj.1 (hid.symm.trans ?_)
    decide +kernel
  exact ⟨rfl, (distinctIds_iff_takesLasts rfl _).1.1 hlast _ List.prefix_rfl (creation "c")⟩

/-- The first of two volumes goes, and the one that comes next has the id of the other. -/
theorem ids_repeat_behind_first :
    ¬(({} : RealmMemory).after
      [creation "a", creation "b", deletion "a", creation "c"]).DistinctIds := by
  intro h
  have hsame : "b" = "c" := h "b" "c" "2" (by decide +kernel) (by decide +kernel)
  exact absurd hsame (by decide)

end RealmDriver.RealmMemory
