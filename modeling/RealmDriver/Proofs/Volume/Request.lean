import RealmDriver.Node.Request
import RealmDriver.Proofs.Action

namespace RealmDriver

theorem CreateRequest.ofMessage_ok_iff {m : CreateMessage} {r : CreateRequest} :
    ofMessage m = .ok r ↔ m.name ≠ "" ∧ m.capabilities ≠ [] ∧
      ∃ cs, m.capabilities.mapM Capability.ofMessage = .ok cs ∧
        ∃ source, ContentSource.ofMessage (m.source.getD .unset) = .ok source ∧
          { m with capabilities := cs, source } = r := by
  simp [ofMessage, Except.guard_ok_iff, Except.bind_ok_iff, pure, Except.pure]

theorem DeleteRequest.ofMessage_ok_iff {m : DeleteMessage} {r : DeleteRequest} :
    ofMessage m = .ok r ↔ m.volumeId ≠ "" ∧ ⟨m.volumeId, m.secrets⟩ = r := by
  by_cases hempty : m.volumeId = "" <;> simp [ofMessage, hempty]

theorem ValidateRequest.ofMessage_ok_iff {m : ValidateMessage} {r : ValidateRequest} :
    ofMessage m = .ok r ↔ m.volumeId ≠ "" ∧ m.capabilities ≠ [] ∧
      ∃ cs, m.capabilities.mapM Capability.ofMessage = .ok cs ∧ { m with capabilities := cs } = r := by
  simp [ofMessage, Except.guard_ok_iff, Except.bind_ok_iff, pure, Except.pure]

theorem ExpandRequest.ofMessage_ok_iff {m : ExpandMessage} {r : ExpandRequest} :
    ofMessage m = .ok r ↔ m.volumeId ≠ "" ∧ ∃ capacity, m.capacity = some capacity ∧
      ∃ capability, m.capability.mapM Capability.ofMessage = .ok capability ∧
        { m with capacity, capability } = r := by
  cases hcapacity : m.capacity <;>
    simp [ofMessage, hcapacity, Except.guard_ok_iff, Except.bind_ok_iff, pure, Except.pure]

/-- A message that is in order for some volume is so for the one of this id. -/
structure IsVolumeId (id : String) : Prop where
  delete : ∀ m r, DeleteRequest.ofMessage m = .ok r →
    DeleteRequest.ofMessage { m with volumeId := id } = .ok { r with volumeId := id }
  validate : ∀ m r, ValidateRequest.ofMessage m = .ok r →
    ValidateRequest.ofMessage { m with volumeId := id } = .ok { r with volumeId := id }
  expand : ∀ m r, ExpandRequest.ofMessage m = .ok r →
    ExpandRequest.ofMessage { m with volumeId := id } = .ok { r with volumeId := id }
  publish : ∀ m r, PublishRequest.ofMessage m = .ok r →
    PublishRequest.ofMessage { m with volumeId := id } = .ok { r with volumeId := id }
  unpublish : ∀ m r, UnpublishRequest.ofMessage m = .ok r →
    UnpublishRequest.ofMessage { m with volumeId := id } = .ok { r with volumeId := id }

theorem isVolumeId_iff {id : String} : IsVolumeId id ↔ id ≠ "" := by
  constructor
  · intro h
    exact (DeleteRequest.ofMessage_ok_iff.1 (h.delete ⟨"a", ∅⟩ ⟨"a", ∅⟩ rfl)).1
  · intro hid
    constructor
    · intro m r hr
      obtain ⟨-, rfl⟩ := DeleteRequest.ofMessage_ok_iff.1 hr
      exact DeleteRequest.ofMessage_ok_iff.2 ⟨hid, rfl⟩
    · intro m r hr
      obtain ⟨-, hsome, cs, hcs, rfl⟩ := ValidateRequest.ofMessage_ok_iff.1 hr
      exact ValidateRequest.ofMessage_ok_iff.2 ⟨hid, hsome, cs, hcs, rfl⟩
    · intro m r hr
      obtain ⟨-, capacity, hcapacity, capability, hcapability, rfl⟩ := ExpandRequest.ofMessage_ok_iff.1 hr
      exact ExpandRequest.ofMessage_ok_iff.2 ⟨hid, capacity, hcapacity, capability, hcapability, rfl⟩
    · intro m r hr
      obtain ⟨volumeId, target, capability, readonly, secrets, context⟩ := m
      simp only [PublishRequest.ofMessage, Except.guard_ok_iff, Except.bind_ok_iff] at hr ⊢
      obtain ⟨-, directory, hdirectory, hr⟩ := hr
      refine ⟨hid, directory, hdirectory, ?_⟩
      cases capability with
      | none => cases hr
      | some c =>
        obtain ⟨capability, hcapability, ⟨⟩⟩ := Except.bind_ok_iff.1 hr
        exact Except.bind_ok_iff.2 ⟨capability, hcapability, rfl⟩
    · intro m r hr
      simp only [UnpublishRequest.ofMessage, Except.guard_ok_iff, Except.bind_ok_iff] at hr ⊢
      obtain ⟨-, directory, hdirectory, ⟨⟩⟩ := hr
      exact ⟨hid, directory, hdirectory, rfl⟩

end RealmDriver
