import RealmDriver.Controller.Creation
import RealmDriver.Proofs.Action

namespace RealmDriver

namespace Validation

theorem creation_ok_iff (r : CreateRequest) :
    creation r = .ok () ↔ r.name ≠ "" ∧ ¬r.capabilities.isEmpty = true ∧
      ¬(r.capabilities.any fun c ↦ !c.access.isMount) = true ∧ ¬r.source.isSome = true ∧
      capacityRange r.capacity = .ok () ∧ parameters r.parameters = .ok () := by
  simp only [creation, Except.guard_ok_iff, Except.bind_ok_iff]
  constructor
  · rintro ⟨hname, hsome, hmount, hsource, ⟨⟩, hcapacity, hparameters⟩
    exact ⟨hname, hsome, hmount, hsource, hcapacity, hparameters⟩
  · rintro ⟨hname, hsome, hmount, hsource, hcapacity, hparameters⟩
    exact ⟨hname, hsome, hmount, hsource, (), hcapacity, hparameters⟩

theorem capacityRange_nonneg {range : CapacityRange} (h : capacityRange (some range) = .ok ()) :
    0 ≤ range.required.toInt ∧ 0 ≤ range.limit.toInt := by
  rw [capacityRange] at h
  split at h
  · cases h
  · rename_i hsign
    simp only [not_or, Int64.not_lt, Int64.le_iff_toInt_le] at hsign
    exact hsign

theorem secret?_eq_some_iff {secrets : Dictionary} {k : Secret} {text : String} :
    secrets.secret? k = some text ↔ secrets[k.key]? = some text ∧ text ≠ "" := by
  rw [Dictionary.secret?, Dictionary.filled?, Option.filter_eq_some_iff, decide_eq_true_iff]

theorem credentials_ok_iff {secrets : Dictionary} : credentials secrets = .ok () ↔
    (∃ address, secrets.secret? .realmAddress = some address) ∧
      (∃ user, secrets.secret? .user = some user) ∧
      ((secrets.secret? .password).isSome ∨ (secrets.secret? .privateKey).isSome) := by
  have hsome (k : Secret) : ¬(secrets.secret? k).isNone = true ↔ (secrets.secret? k).isSome = true := by
    rw [← Option.not_isSome, Bool.not_eq_true', Bool.not_eq_false]
  have hlast : (if (secrets.secret? .password).isNone ∧ (secrets.secret? .privateKey).isNone then
      throw .noCredentials else pure () : Except ValidationError Unit) = .ok () ↔
      (secrets.secret? .password).isSome ∨ (secrets.secret? .privateKey).isSome := by
    rw [← hsome .password, ← hsome .privateKey, ← not_and_or]
    split_ifs with hnone
    · exact iff_of_false (fun h ↦ by cases h) (not_not.2 hnone)
    · exact iff_of_true rfl hnone
  simp only [credentials, Except.guard_ok_iff, hsome, hlast, Option.isSome_iff_exists]

theorem exists_realmAddress {secrets : Dictionary} (h : credentials secrets = .ok ()) :
    ∃ address, secrets["realm_ip"]? = some address := by
  obtain ⟨⟨address, haddress⟩, -⟩ := credentials_ok_iff.1 h
  exact ⟨address, (secret?_eq_some_iff.1 haddress).1⟩

def adminSecrets : Dictionary :=
  Dictionary.ofList [("realm_ip", "192.0.2.1"), ("user", "admin"), ("password", "pw")]

theorem credentials_adminSecrets : credentials adminSecrets = .ok () := rfl

end Validation

namespace Creation

theorem check_ok_iff (r : CreateRequest) :
    check r = .ok () ↔
      Validation.creation r = .ok () ∧ Validation.credentials r.secrets = .ok () := by
  simp only [check, Except.bind_ok_iff, Except.mapError_ok_iff]
  exact ⟨fun ⟨_, h⟩ ↦ h, fun h ↦ ⟨(), h⟩⟩

theorem check_nonneg {r : CreateRequest} {range : CapacityRange} (h : check r = .ok ())
    (hrange : r.capacity = some range) : 0 ≤ range.required.toInt ∧ 0 ≤ range.limit.toInt := by
  have hcapacity := ((Validation.creation_ok_iff r).1 ((check_ok_iff r).1 h).1).2.2.2.2.1
  rw [hrange] at hcapacity
  exact Validation.capacityRange_nonneg hcapacity

end Creation

end RealmDriver
