import RealmDriver.Proofs.Creation.Outcome
import RealmDriver.Proofs.Realm.Soundness

namespace RealmDriver

theorem Validation.capacityRange_ordered {range : CapacityRange}
    (h : capacityRange (some range) = .ok ()) :
    range.limit.toInt = 0 ∨ range.required.toInt ≤ range.limit.toInt := by
  have hnonneg := capacityRange_nonneg h
  rw [capacityRange] at h
  split at h
  · cases h
  · split at h
    · cases h
    · rename_i hcrossed
      simp only [ne_eq, ← Int64.toInt_inj, Int64.lt_iff_toInt_lt, Int64.toInt_zero] at hcrossed
      omega

namespace Creation

variable {r : CreateRequest}

def asked : Option CapacityRange → Bound → Int
  | none, _ => 0
  | some range, .soft => range.required.toInt
  | some range, .hard => range.limit.toInt

theorem asked_lt (capacity : Option CapacityRange) (b : Bound) : asked capacity b < 2 ^ 63 := by
  cases capacity with
  | none => exact Int.pow_pos (by decide)
  | some range =>
    cases b with
    | soft => exact Int64.toInt_lt _
    | hard => exact Int64.toInt_lt _

theorem quota_parameters (given : Dictionary) (capacity : Option CapacityRange) (b : Bound) :
    RealmMemory.quota (parameters given capacity) b =
      if 0 < asked capacity b then .ok (Quota.ofBytes (asked capacity b))
      else RealmMemory.quota given b := by
  cases capacity with
  | none => rfl
  | some range =>
    have hpos : ∀ bytes : Int64, 0 < bytes ↔ 0 < bytes.toInt := fun _ ↦ Int64.lt_iff_toInt_lt
    cases b with
    | soft =>
      rw [quota_soft]
      exact if_congr (hpos _) rfl rfl
    | hard =>
      rw [quota_hard]
      exact if_congr (hpos _) rfl rfl

theorem quota_asked {given : Dictionary} (hkeys : ∀ b : Bound, given[b.key]? = none)
    {capacity : Option CapacityRange} (hnonneg : ∀ b, 0 ≤ asked capacity b) (b : Bound) :
    RealmMemory.quota (parameters given capacity) b = .ok (Quota.ofBytes (asked capacity b)) := by
  rw [quota_parameters]
  split
  · rfl
  · rename_i hzero
    rw [quota_of_no_key (hkeys b), le_antisymm (not_lt.1 hzero) (hnonneg b), Quota.ofBytes_zero]

theorem inOrder_parameters (hcheck : check r = .ok ())
    (hkeys : ∀ b : Bound, r.parameters[b.key]? = none) :
    RealmMemory.InOrder (parameters r.parameters r.capacity) := by
  have hrange := ((Validation.creation_ok_iff r).1 ((check_ok_iff r).1 hcheck).1).2.2.2.2.1
  have hnonneg : ∀ b, 0 ≤ asked r.capacity b := by
    intro b
    cases hcapacity : r.capacity with
    | none => exact le_rfl
    | some range =>
      have hbytes := check_nonneg hcheck hcapacity
      cases b with
      | soft => exact hbytes.1
      | hard => exact hbytes.2
  have hordered : asked r.capacity .hard = 0 ∨ asked r.capacity .soft ≤ asked r.capacity .hard := by
    cases hcapacity : r.capacity with
    | none => exact .inl rfl
    | some range =>
      rw [hcapacity] at hrange
      exact Validation.capacityRange_ordered hrange
  have hquota := quota_asked hkeys hnonneg
  have hlt := asked_lt r.capacity
  -- from here on the bytes are natural numbers
  lift asked r.capacity to Bound → Nat using hnonneg with bytes
  refine ⟨_, hquota, ?_, ?_⟩
  · intro b
    have hbytes := hlt b
    exact Quota.ofBytes_isAmount (by omega)
  · apply Enlargement.ordered_ofBytes
    omega

theorem run_within {σ : Type} {R : σ → σ → Prop} [Std.Refl R] [IsTrans σ R] {realm : Realm σ}
    (hcreate : check r = .ok () →
      (realm.create r.name (parameters r.parameters r.capacity) r.secrets).Within R)
    (hlookup : (realm.lookup r.name r.secrets).Within R) : (run realm r).Within R := by
  apply Action.Within.checked
  intro _ hcheck
  apply Action.Within.bind (hcreate hcheck).attempt
  intro answer
  split
  · exact .ofExcept _
  · apply Action.Within.bind hlookup.attempt
    intro found
    exact .ofExcept _

end Creation

end RealmDriver
