import RealmDriver.Proofs.Creation.Repetition

namespace RealmDriver.Creation

variable {r : CreateRequest} {m : RealmMemory} {record : VolumeRecord} {range : CapacityRange}

theorem afterLookup_ok_iff (hrange : r.capacity = some range) (c : Created) :
    afterLookup r (.ok record) = .ok c ↔
      (range.required.toInt ≤ record.softBytes ∧
        (range.limit = 0 ∨ record.hardBytes = 0 ∨ range.limit.toInt = record.hardBytes)) ∧
      c = { volume := volume record } := by
  rw [afterLookup_ok_iff_fits, hrange]
  rfl

/-- A volume that was there before is handed back just if its soft quota is not below what is required,
and its hard quota is the limit or one of these two is not set. So its capacity is within the limit where
it has a hard quota that is not below the soft one. -/
theorem handed_back_iff (hrecord : m.record? r.name = some record)
    (hrange : r.capacity = some range) :
    let answer := ((run RealmMemory.realm r).outcome m).1
    ((∃ c, answer = .ok c) ↔ check r = .ok () ∧ m.admission = .ok () ∧
      range.required.toInt ≤ record.softBytes ∧
      (range.limit = 0 ∨ record.hardBytes = 0 ∨ range.limit.toInt = record.hardBytes)) ∧
    ∀ c, answer = .ok c → range.required.toInt ≤ c.volume.capacity ∧
      (range.limit ≠ 0 → record.hardBytes ≠ 0 → record.softBytes ≤ record.hardBytes →
        (c.volume.capacity : Int) ≤ range.limit.toInt) := by
  cases hcheck : check r with
  | error f =>
    rw [run_refused _ _ hcheck]
    simp
  | ok =>
    cases hm : m.admission with
    | error e =>
      obtain ⟨f, hf⟩ := run_unadmitted hm hcheck
      rw [hf]
      simp
    | ok =>
      rw [run_admitted hm hcheck hrecord]
      simp only [afterLookup_ok_iff hrange]
      constructor
      · simp
      · rintro c ⟨⟨hsoft, hlimit⟩, rfl⟩
        refine ⟨hsoft, ?_⟩
        intro hset hquota hordered
        have hsame := (hlimit.resolve_left hset).resolve_left hquota
        rw [hsame]
        exact Int.ofNat_le.2 hordered

def tenGigabytes (hard : Quota) : VolumeRecord :=
  { name := "a", soft := Quota.ofBytes 10737418240, hard := hard }

theorem record?_tenGigabytes (hard : Quota) (range : CapacityRange) :
    (RealmMemory.insert (tenGigabytes hard) {}).record? (bare "a" range).name =
      some (tenGigabytes hard) := by
  have hname : VolumeName.strip "a" = "a" := by decide
  rw [RealmMemory.insert_record?]
  exact if_pos hname.symm

theorem handed_back_of_equal_quotas :
    ∃ c, ((run RealmMemory.realm (bare "a" ⟨5368709120, 10737418240⟩)).outcome
        (RealmMemory.insert (tenGigabytes (Quota.ofBytes 10737418240)) {})).1 = .ok c ∧
      (c.volume.capacity : Int) ≤ 10737418240 := by
  have hrecord := record?_tenGigabytes (Quota.ofBytes 10737418240) ⟨5368709120, 10737418240⟩
  obtain ⟨hgiven, hwithin⟩ := handed_back_iff hrecord rfl
  obtain ⟨c, hc⟩ := hgiven.2 ⟨check_bare (by decide) (by decide), rfl, by decide +kernel⟩
  refine ⟨c, hc, ?_⟩
  apply (hwithin c hc).2
  · decide
  · decide +kernel
  · decide +kernel

theorem run_tenGigabytes {hard : Quota} {range : CapacityRange}
    (hcapacity : Validation.capacityRange (some range) = .ok ())
    (hfits : range.required.toInt ≤ (tenGigabytes hard).softBytes ∧
      (range.limit = 0 ∨ (tenGigabytes hard).hardBytes = 0 ∨
        range.limit.toInt = (tenGigabytes hard).hardBytes)) :
    ((run RealmMemory.realm (bare "a" range)).outcome
      (RealmMemory.insert (tenGigabytes hard) {})).1 =
        .ok { volume := volume (tenGigabytes hard) } := by
  rw [run_admitted rfl (check_bare (by decide) hcapacity) (record?_tenGigabytes hard range)]
  exact (afterLookup_ok_iff rfl _).2 ⟨hfits, rfl⟩

/-- The capacity is ten gigabytes and the limit five. The volume is handed back all the same, be it
without a hard quota or with one of five gigabytes. -/
theorem handed_back_beyond_limit :
    (∃ c, ((run RealmMemory.realm (bare "a" ⟨0, 5368709120⟩)).outcome
        (RealmMemory.insert (tenGigabytes Binary64.zero) {})).1 = .ok c ∧
      (5368709120 : Int) < c.volume.capacity) ∧
    ∃ c, ((run RealmMemory.realm (bare "a" ⟨0, 5368709120⟩)).outcome
        (RealmMemory.insert (tenGigabytes (Quota.ofBytes 5368709120)) {})).1 = .ok c ∧
      (5368709120 : Int) < c.volume.capacity := by
  constructor
  · exact ⟨_, run_tenGigabytes rfl (by decide +kernel), by decide +kernel⟩
  · exact ⟨_, run_tenGigabytes rfl (by decide +kernel), by decide +kernel⟩

end RealmDriver.Creation
