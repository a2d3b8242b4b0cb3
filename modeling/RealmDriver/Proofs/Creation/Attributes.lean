import RealmDriver.Proofs.Creation.Repetition
import RealmDriver.Proofs.Realm.Context

namespace RealmDriver.Creation

variable {r : CreateRequest} {m : RealmMemory} {record : VolumeRecord}

theorem volume_context_getD (record : VolumeRecord) (a : Attribute) :
    (volume record).context.getD a.key "" = record.reported a :=
  record.context_getD a

theorem check_given {given : Dictionary} (hcheck : check r = .ok ())
    (hgiven : Validation.parameters given = .ok ()) : check { r with parameters := given } = .ok () := by
  rw [check_ok_iff, Validation.creation_ok_iff] at hcheck ⊢
  obtain ⟨⟨hname, hsome, hmount, hsource, hcapacity, -⟩, hcredentials⟩ := hcheck
  exact ⟨⟨hname, hsome, hmount, hsource, hcapacity, hgiven⟩, hcredentials⟩

theorem run_parameters {given : Dictionary} (hcheck : check r = .ok ())
    (hgiven : check { r with parameters := given } = .ok ()) (hrecord : m.record? r.name = some record) :
    (run RealmMemory.realm { r with parameters := given }).outcome m =
      (run RealmMemory.realm r).outcome m := by
  cases hm : m.admission with
  | ok =>
    rw [run_admitted hm hcheck hrecord, run_admitted hm hgiven hrecord]
    rfl
  | error e => rw [run_failing hm hcheck, run_failing hm hgiven]

/-- Where its volume is there already, a creation succeeds just if the realm admits it and the capacity
fits, and is refused for a conflict if only the capacity does not. Nothing that is stored changes. The
parameters have no part in that: with others the answer is the same, and the volume is handed back with
the attributes that it has. -/
theorem handed_back_as_it_is (hcheck : check r = .ok ()) (hrecord : m.record? r.name = some record) :
    let answer := (run RealmMemory.realm r).outcome m
    (∀ c, answer.1 = .ok c ↔
      (m.admission = .ok () ∧ Fits record r.capacity) ∧ c = { volume := volume record }) ∧
    (m.admission = .ok () → ¬Fits record r.capacity → ∃ text, answer.1 = .error (.conflict text)) ∧
    (∀ e, m.admission = .error e → answer.1 = .error (realmFailure "CreateVolume" e)) ∧
    answer.2.volumes = m.volumes ∧
    (∀ given, check { r with parameters := given } = .ok () →
      (run RealmMemory.realm { r with parameters := given }).outcome m = answer) ∧
    ∀ a, (volume record).context.getD a.key "" = record.reported a := by
  refine ⟨?_, ?_, ?_, ?_, fun given hgiven ↦ run_parameters hcheck hgiven hrecord,
    volume_context_getD record⟩
  · intro c
    cases hm : m.admission with
    | error e => simp [run_failing hm hcheck]
    | ok =>
      rw [run_admitted hm hcheck hrecord, afterLookup_ok_iff_fits]
      simp
  · intro hm hfits
    rw [run_admitted hm hcheck hrecord]
    rw [← conflict?_eq_none_iff_fits] at hfits
    rcases afterLookup_found r record with ⟨hnone, -⟩ | ⟨conflict, -, hanswer⟩
    · exact absurd hnone hfits
    · exact ⟨_, hanswer⟩
  · intro e hm
    rw [run_failing hm hcheck]
  · cases hm : m.admission with
    | ok => rw [run_admitted hm hcheck hrecord, RealmMemory.called_volumes, RealmMemory.attempted_volumes]
    | error e =>
      rw [run_failing hm hcheck]
      split_ifs <;> rfl

def plain : RealmMemory := RealmMemory.insert { name := "a" } {}

def encrypted : CreateRequest :=
  { bare "a" ⟨0, 0⟩ with parameters := Dictionary.ofList [(Attribute.encryption.key, "on")] }

theorem check_encrypted : check encrypted = .ok () :=
  check_given (check_bare (by decide) rfl) rfl

theorem plain_record? : plain.record? encrypted.name = some { name := "a" } := by
  have hname : VolumeName.strip "a" = "a" := by decide
  rw [plain, RealmMemory.insert_record?]
  exact if_pos hname.symm

theorem plain_fits : Fits { name := "a" } encrypted.capacity := ⟨by decide +kernel, .inl rfl⟩

theorem handed_back_as_it_is_of_encryption :
    (run RealmMemory.realm encrypted).outcome plain =
      (run RealmMemory.realm (bare "a" ⟨0, 0⟩)).outcome plain ∧
    ∃ c, ((run RealmMemory.realm encrypted).outcome plain).1 = .ok c ∧
      c.volume.context.getD Attribute.encryption.key "" = "off" := by
  obtain ⟨hiff, -, -, -, hparameters, htold⟩ := handed_back_as_it_is check_encrypted plain_record?
  refine ⟨(hparameters ∅ (check_bare (by decide) rfl)).symm, _, (hiff _).2 ⟨⟨rfl, plain_fits⟩, rfl⟩, ?_⟩
  exact (htold .encryption).trans rfl

/-- A request for an encrypted volume is answered with one that is not encrypted. -/
theorem handed_back_without_encryption :
    check encrypted = .ok () ∧ encrypted.parameters[Attribute.encryption.key]? = some "on" ∧
    ∃ record c, plain.record? encrypted.name = some record ∧ record.encryption = "off" ∧
      ((run RealmMemory.realm encrypted).outcome plain).1 = .ok c := by
  refine ⟨check_encrypted, rfl, { name := "a" }, { volume := volume { name := "a" } }, plain_record?, rfl,
    ?_⟩
  rw [run_admitted rfl check_encrypted plain_record?]
  exact (afterLookup_ok_iff_fits _).2 ⟨plain_fits, rfl⟩

end RealmDriver.Creation
