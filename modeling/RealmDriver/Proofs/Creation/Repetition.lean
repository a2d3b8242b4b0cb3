import RealmDriver.Proofs.Creation.Outcome

namespace RealmDriver

/-- The lower bound does not shrink when it is made a quota, and the upper one stays what it was. -/
def CapacityRange.Lasting (range : CapacityRange) : Prop :=
  range.required.toInt.toNat ≤ Quota.nearest53 range.required.toInt.toNat ∧
    range.limit.toInt.toNat = min Quota.maxBytes (Quota.nearest53 range.limit.toInt.toNat)

instance (range : CapacityRange) : Decidable range.Lasting :=
  inferInstanceAs (Decidable (_ ∧ _))

namespace Quota

theorem stored_toInt {bytes : Int64} (h : 0 ≤ bytes.toInt) :
    stored bytes.toInt = min maxBytes (nearest53 bytes.toInt.toNat) := by
  have hlt := bytes.toInt_lt
  have hcast := stored_natCast (n := bytes.toInt.toNat) (by omega)
  rwa [Int.toNat_of_nonneg h] at hcast

end Quota

theorem CapacityRange.lasting_iff {range : CapacityRange} (hrequired : 0 ≤ range.required.toInt)
    (hlimit : 0 ≤ range.limit.toInt) :
    range.Lasting ↔ range.required.toInt ≤ Quota.stored range.required.toInt ∧
      range.limit.toInt = Quota.stored range.limit.toInt := by
  have hmax : Quota.maxBytes = 9223372036854775807 := rfl
  have hrequired' := range.required.toInt_lt
  rw [Lasting, Quota.stored_toInt hrequired, Quota.stored_toInt hlimit, hmax]
  omega

namespace Creation

variable {r : CreateRequest} {m m' : RealmMemory} {c : Created} {record : VolumeRecord}

theorem conflict?_eq_none_iff {range : CapacityRange} :
    conflict? record (some range) = none ↔ range.required.toInt ≤ record.softBytes ∧
      (range.limit = 0 ∨ record.hardBytes = 0 ∨ range.limit.toInt = record.hardBytes) := by
  rw [conflict?]
  split
  · simp only [reduceCtorEq, false_iff]
    omega
  · split
    · rename_i hother
      simp only [reduceCtorEq, false_iff]
      rintro ⟨-, h | h | h⟩
      · exact hother.1 h
      · exact hother.2.1 h
      · exact hother.2.2 h
    · rename_i hsoft hother
      refine ⟨fun _ ↦ ⟨by omega, ?_⟩, fun _ ↦ rfl⟩
      by_contra hne
      exact hother ⟨fun h ↦ hne (.inl h), fun h ↦ hne (.inr (.inl h)), fun h ↦ hne (.inr (.inr h))⟩

def Fits (record : VolumeRecord) : Option CapacityRange → Prop
  | none => True
  | some range => range.required.toInt ≤ record.softBytes ∧
      (range.limit = 0 ∨ record.hardBytes = 0 ∨ range.limit.toInt = record.hardBytes)

theorem conflict?_eq_none_iff_fits (record : VolumeRecord) (capacity : Option CapacityRange) :
    conflict? record capacity = none ↔ Fits record capacity := by
  cases capacity with
  | none => exact iff_of_true rfl trivial
  | some range => exact conflict?_eq_none_iff

theorem afterLookup_ok_iff_fits (c : Created) : afterLookup r (.ok record) = .ok c ↔
    Fits record r.capacity ∧ c = { volume := volume record } := by
  rw [← conflict?_eq_none_iff_fits]
  rcases afterLookup_found r record with ⟨hfits, hanswer⟩ | ⟨conflict, hconflict, hanswer⟩
  · rw [hanswer, hfits]
    constructor
    · intro h
      exact ⟨rfl, (Except.ok.inj h).symm⟩
    · rintro ⟨-, rfl⟩
      rfl
  · rw [hanswer, hconflict]
    simp

theorem conflict?_fresh (hcheck : check r = .ok ()) (h : fresh m r = .ok record) :
    conflict? record r.capacity = none ↔ ∀ range, r.capacity = some range → range.Lasting := by
  cases hrange : r.capacity with
  | none => simp [conflict?]
  | some range =>
    obtain ⟨hrequired, hlimit⟩ := check_nonneg hcheck hrange
    have hzero : Quota.stored 0 = 0 := rfl
    simp only [Option.some.injEq, forall_eq', conflict?_eq_none_iff, VolumeRecord.softBytes,
      VolumeRecord.hardBytes, CapacityRange.lasting_iff hrequired hlimit]
    refine and_congr ?_ ?_
    · by_cases hpos : 0 < range.required
      · rw [fresh_soft h hrange hpos]
        rfl
      · rw [Int64.lt_iff_toInt_lt, Int64.toInt_zero] at hpos
        have hnone : range.required.toInt = 0 := by omega
        simp [hnone]
    · by_cases hpos : 0 < range.limit
      · rw [fresh_hard h hrange hpos]
        rw [Int64.lt_iff_toInt_lt, Int64.toInt_zero] at hpos
        have hbytes := Quota.stored_pos hpos
        have hsome : range.limit ≠ 0 := fun h ↦ by simp [h] at hpos
        refine ⟨fun h ↦ ?_, fun h ↦ .inr (.inr h)⟩
        exact (h.resolve_left hsome).resolve_left hbytes.ne'
      · rw [Int64.lt_iff_toInt_lt, Int64.toInt_zero] at hpos
        have hnone : range.limit.toInt = 0 := by omega
        rw [hnone, hzero]
        exact ⟨fun _ ↦ rfl, fun _ ↦ .inl (Int64.toInt_inj.1 hnone)⟩

theorem record?_insert_fresh (h : fresh m r = .ok record) :
    (RealmMemory.insert record m.attempted).record? r.name = some record := by
  rw [RealmMemory.insert_record?, if_pos (fresh_name h)]

/-- Repeating a creation that succeeded changes nothing that is stored. It hands back the volume
once more if the volume was there before the first of the two, or if the bounds that were asked for
survive as quotas; otherwise it is refused for a conflict. -/
theorem run_again (hm : m.failure = none)
    (h : (run RealmMemory.realm r).outcome m = (.ok c, m')) :
    ((run RealmMemory.realm r).outcome m').2.volumes = m'.volumes ∧
      ((∃ c', ((run RealmMemory.realm r).outcome m').1 = .ok c' ∧ c'.volume = c.volume) ↔
        (m.record? r.name).isSome = true ∨ ∀ range, r.capacity = some range → range.Lasting) ∧
      ((∃ c', ((run RealmMemory.realm r).outcome m').1 = .ok c') ∨
        ∃ text, ((run RealmMemory.realm r).outcome m').1 = .error (.conflict text)) := by
  have hcheck := check_of_run_ok h
  rcases of_run_ok hm h with ⟨record, hrecord, hfits, hvolume, rfl⟩ | ⟨record, hfresh, rfl, rfl⟩
  · -- the volume was there before either of the two
    have hagain := run_known (m := m.attempted.called) (r := r) hm hcheck hrecord
    rw [hagain, afterLookup, hfits, hrecord]
    refine ⟨rfl, ⟨fun _ ↦ .inl rfl, fun _ ↦ ⟨_, rfl, hvolume.symm⟩⟩, .inl ⟨_, rfl⟩⟩
  · -- the first of the two has added it, so the second compares it with its own request
    have hagain := run_known (m := RealmMemory.insert record m.attempted) (r := r) hm hcheck
      (record?_insert_fresh hfresh)
    have habsent := (of_fresh_ok hfresh).1
    rw [hagain, habsent, ← conflict?_fresh hcheck hfresh, afterLookup]
    refine ⟨rfl, ?_, ?_⟩
    · cases conflict? record r.capacity with
      | none => exact ⟨fun _ ↦ .inr rfl, fun _ ↦ ⟨_, rfl, rfl⟩⟩
      | some conflict => simp
    · cases conflict? record r.capacity with
      | none => exact .inl ⟨_, rfl⟩
      | some conflict => exact .inr ⟨_, rfl⟩

theorem run_again_ten_gigabytes :
    ∃ c c' m', (run RealmMemory.realm (bare "a" ⟨10737418240, 10737418240⟩)).outcome {} = (.ok c, m') ∧
      ((run RealmMemory.realm (bare "a" ⟨10737418240, 10737418240⟩)).outcome m').1 = .ok c' ∧
      c'.volume = c.volume := by
  obtain ⟨record, -, hfirst⟩ := exists_run_bare (m := {}) "a"
    ⟨10737418240, 10737418240⟩ (by decide) rfl rfl rfl
  have hlasting : (⟨10737418240, 10737418240⟩ : CapacityRange).Lasting := by decide +kernel
  obtain ⟨c', hagain, hvolume⟩ := (run_again rfl hfirst).2.1.2
    (.inr fun range hrange ↦ Option.some.inj hrange ▸ hlasting)
  exact ⟨_, c', _, hfirst, hagain, hvolume⟩

/-- One byte more than a quota can tell apart, and the repetition of a creation is a conflict. -/
theorem run_conflicts_again :
    ∃ c m', (run RealmMemory.realm (bare "a" ⟨9007199254740993, 0⟩)).outcome {} = (.ok c, m') ∧
      ((run RealmMemory.realm (bare "a" ⟨9007199254740993, 0⟩)).outcome m').1 = .error
        (.conflict (Conflict.tooSmall "a" 9007199254740992 9007199254740993).message) := by
  obtain ⟨record, hfresh, hfirst⟩ := exists_run_bare (m := {}) "a"
    ⟨9007199254740993, 0⟩ (by decide) rfl rfl rfl
  refine ⟨_, _, hfirst, ?_⟩
  have hagain := run_known (m := RealmMemory.insert record _) (r := bare "a" ⟨9007199254740993, 0⟩)
    rfl (check_bare (by decide) rfl) (record?_insert_fresh hfresh)
  have hbytes : record.softBytes = 9007199254740992 := by
    rw [VolumeRecord.softBytes, fresh_soft hfresh rfl (by decide)]
    decide +kernel
  have hname : record.name = "a" := fresh_name hfresh
  have hconflict : conflict? record (bare "a" ⟨9007199254740993, 0⟩).capacity =
      some (.tooSmall "a" 9007199254740992 9007199254740993) := by
    rw [bare, conflict?, hbytes, hname]
    rw [if_pos (by decide)]
  rw [hagain, afterLookup, hconflict]

end Creation

end RealmDriver
