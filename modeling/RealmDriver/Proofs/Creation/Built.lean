import RealmDriver.Proofs.Creation.Outcome
import RealmDriver.Proofs.Realm.Field

namespace RealmDriver.Creation

variable {r : CreateRequest} {m : RealmMemory}

/-- A record as it comes from a request alone. Its encryption may be the realm's choice, and its id is
the realm's own. -/
structure BuiltFrom (mode : Option String) (r : CreateRequest) (record : VolumeRecord) : Prop where
  name : record.name = VolumeName.strip r.name
  state : record.state = "Online"
  quota : ∀ b, RealmMemory.quota (parameters r.parameters r.capacity) b = .ok (record.quota b)
  value : ∀ a, record.value a =
    (mode.filter fun _ ↦ a = .encryption).getD ((parameters r.parameters r.capacity).getD a.key "")

theorem builtFrom_of_fresh {record : VolumeRecord} (h : fresh m r = .ok record) :
    BuiltFrom m.reportedEncryption r record := by
  obtain ⟨-, soft, hard, hsoft, hhard, rfl⟩ := of_fresh_ok h
  refine ⟨RealmMemory.newRecord_name m _ _ soft hard, ?_, ?_, ?_⟩
  · rw [RealmMemory.newRecord]
    split <;> rfl
  · rintro (_ | _)
    · exact hsoft.trans (congrArg _ (RealmMemory.newRecord_soft m _ _ soft hard).symm)
    · exact hhard.trans (congrArg _ (RealmMemory.newRecord_hard m _ _ soft hard).symm)
  · intro a
    rw [RealmMemory.newRecord]
    cases m.reportedEncryption with
    | none => rfl
    | some mode =>
      by_cases ha : a = .encryption
      · simp [VolumeRecord.setValue, ha, Option.filter]
      · simp [VolumeRecord.setValue, ha, Option.filter]

/-- A creation where no volume of the name is adds what the request asks for, unless a quota among its
parameters cannot be read; then it fails and adds nothing. -/
theorem run_absent (hm : m.failure = none) (hcheck : check r = .ok ())
    (habsent : m.record? r.name = none) :
    (∃ record, BuiltFrom m.reportedEncryption r record ∧
      (run RealmMemory.realm r).outcome m =
        (.ok (ofNew r record), RealmMemory.insert record m.attempted)) ∨
    (∃ b e, RealmMemory.quota (parameters r.parameters r.capacity) b = .error e) ∧
      ∃ f, (run RealmMemory.realm r).outcome m = (.error f, m.attempted) := by
  cases hfresh : fresh m r with
  | ok record => exact .inl ⟨record, builtFrom_of_fresh hfresh, run_unknown hcheck hfresh⟩
  | error e =>
    obtain ⟨b, hb⟩ :=
      RealmMemory.quota_of_created_error (RealmMemory.admission_of_no_failure hm) habsent hfresh
    refine .inr ⟨⟨b, e, hb⟩, realmFailure "CreateVolume" e, ?_⟩
    rw [fresh] at hfresh
    rw [run_outcome _ _ hcheck]
    simp only [RealmMemory.realm, RealmMemory.create_outcome, hfresh, afterCreate,
      RealmMemory.quota_error_kind hb]

end RealmDriver.Creation
