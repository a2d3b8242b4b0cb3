import RealmDriver.Proofs.Creation.Quotas
import RealmDriver.Proofs.Validation.Parameters

namespace RealmDriver

/-- The same realm, which also writes down the parameters of all creations that it is asked for. -/
def Realm.noting {σ : Type} (realm : Realm σ) : Realm (List Dictionary × σ) :=
  { realm.within Prod.snd fun s t ↦ (t.1, s) with
    create name parameters secrets := do
      modify fun t ↦ (t.1 ++ [parameters], t.2)
      (realm.create name parameters secrets).on Prod.snd fun s t ↦ (t.1, s) }

namespace Creation

variable {σ : Type} {r : CreateRequest}

theorem run_noting (realm : Realm σ) (r : CreateRequest) (t : List Dictionary × σ) :
    (run realm.noting r).outcome t =
      let done := (run realm r).outcome t.2
      (done.1, t.1 ++ (match check r with
        | .ok () => [parameters r.parameters r.capacity]
        | .error _ => []), done.2) := by
  cases hcheck : check r with
  | error f => simp only [run_refused _ _ hcheck, List.append_nil]
  | ok =>
    simp only [run_outcome _ _ hcheck, Realm.noting, Realm.within, Action.outcome_bind,
      Action.outcome_modify, Action.outcome_on]
    cases afterCreate r _ with
    | finish outcome => rfl
    | lookup => rfl

theorem getElem?_withQuota (b : Bound) (bytes : Int64) (d : Dictionary) (key : String) :
    (withQuota b bytes d)[key]? =
      if key = b.key ∧ 0 < bytes.toInt then some (Quota.ofBytes bytes.toInt).text else d[key]? := by
  have hpos : 0 < bytes ↔ 0 < bytes.toInt := Int64.lt_iff_toInt_lt
  rw [withQuota]
  by_cases hbytes : 0 < bytes
  · rw [if_pos hbytes, Std.ExtTreeMap.getElem?_insert]
    simp only [Std.LawfulEqOrd.compare_eq_iff_eq, hpos.1 hbytes, and_true, eq_comm (a := key)]
  · rw [if_neg hbytes, if_neg fun h ↦ hbytes (hpos.2 h.2)]

theorem parameters_bound (given : Dictionary) (capacity : Option CapacityRange) (b : Bound) :
    (parameters given capacity)[b.key]? =
      if 0 < asked capacity b then some (Quota.ofBytes (asked capacity b)).text else given[b.key]? := by
  cases capacity with
  | none => rfl
  | some range =>
    simp only [parameters, getElem?_withQuota, Bound.key_inj]
    cases b with
    | soft =>
      have hother : Bound.soft ≠ .hard := by decide
      rw [if_neg fun h ↦ hother h.1]
      exact if_congr (and_iff_right rfl) rfl rfl
    | hard =>
      have hother : Bound.hard ≠ .soft := by decide
      exact if_congr (and_iff_right rfl) rfl (if_neg fun h ↦ hother h.1)

theorem parameters_other (given : Dictionary) (capacity : Option CapacityRange) {key : String}
    (h : ∀ b : Bound, key ≠ b.key) : (parameters given capacity)[key]? = given[key]? := by
  cases capacity with
  | none => rfl
  | some range => simp [parameters, getElem?_withQuota, h]

theorem check_insert_bound (r : CreateRequest) (b : Bound) (value : String) :
    check { r with parameters := r.parameters.insert b.key value } = check r := by
  have hkeys : ∀ a : Attribute, a.key ≠ b.key := by
    intro a
    cases b <;> cases a <;> decide
  have hparameters : Validation.parameters (r.parameters.insert b.key value) =
      Validation.parameters r.parameters := by
    refine Validation.parameters_congr fun a _ ↦ ?_
    rw [Std.ExtTreeMap.getElem?_insert, if_neg]
    simpa using (hkeys a).symm
  simp only [check, Validation.creation, hparameters]

/-- **What a creation hands to the realm.** A request that passes its checks is handed over once, with a quota
for each bound of its capacity range that is not zero. Where there is no such bound, a quota that its own
parameters ask for goes through unchecked, as all its other parameters do. A request that is refused is not
handed over. -/
theorem run_hands_over (realm : Realm σ) (r : CreateRequest) (t : List Dictionary × σ) :
    let done := (run realm.noting r).outcome t
    (∀ f, check r = .error f → done.2.1 = t.1) ∧
    (check r = .ok () → ∃ d : Dictionary, done.2.1 = t.1 ++ [d] ∧
      (∀ b : Bound, d[b.key]? =
        if 0 < asked r.capacity b then some (Quota.ofBytes (asked r.capacity b)).text
        else r.parameters[b.key]?) ∧
      (∀ b : Bound, b.key ∈ d ↔ 0 < asked r.capacity b ∨ b.key ∈ r.parameters) ∧
      ∀ key, (∀ b : Bound, key ≠ b.key) → d[key]? = r.parameters[key]?) ∧
    ∀ (b : Bound) (value : String),
      check { r with parameters := r.parameters.insert b.key value } = check r := by
  rw [run_noting]
  refine ⟨fun f hf ↦ ?_, fun hok ↦ ?_, check_insert_bound r⟩
  · rw [hf]
    exact List.append_nil _
  · rw [hok]
    have hbound := parameters_bound r.parameters r.capacity
    refine ⟨_, rfl, hbound, fun b ↦ ?_, fun key ↦ parameters_other _ _⟩
    rw [← Std.ExtTreeMap.isSome_getElem?_iff_mem, ← Std.ExtTreeMap.isSome_getElem?_iff_mem, hbound b]
    split_ifs with hasked
    · exact iff_of_true rfl (.inl hasked)
    · exact (or_iff_right hasked).symm

def withSoftParameter (range : CapacityRange) : CreateRequest :=
  { bare "a" range with parameters := (bare "a" range).parameters.insert Bound.soft.key "5" }

theorem check_withSoftParameter {range : CapacityRange}
    (h : Validation.capacityRange (some range) = .ok ()) : check (withSoftParameter range) = .ok () := by
  rw [withSoftParameter, check_insert_bound]
  exact check_bare (by decide) h

theorem run_hands_over_of_limit :
    let r := withSoftParameter ⟨0, 5368709120⟩
    check r = .ok () ∧
      ∃ d : Dictionary, ((run RealmMemory.realm.noting r).outcome ([], {})).2.1 = [] ++ [d] ∧
      (∀ b : Bound, d[b.key]? =
        if 0 < asked r.capacity b then some (Quota.ofBytes (asked r.capacity b)).text
        else r.parameters[b.key]?) ∧
      (∀ b : Bound, b.key ∈ d ↔ 0 < asked r.capacity b ∨ b.key ∈ r.parameters) ∧
      ∀ key, (∀ b : Bound, key ≠ b.key) → d[key]? = r.parameters[key]? := by
  intro r
  have hcheck : check r = .ok () := check_withSoftParameter (by decide +kernel)
  exact ⟨hcheck, (run_hands_over RealmMemory.realm r ([], {})).2.1 hcheck⟩

theorem run_hands_over_own_quota :
    let r := withSoftParameter ⟨0, 0⟩
    check r = .ok () ∧ asked r.capacity .soft = 0 ∧
      ∃ d : Dictionary, ((run RealmMemory.realm.noting r).outcome ([], {})).2.1 = [d] ∧
        Bound.soft.key ∈ d ∧ d[Bound.soft.key]? = some "5" := by
  intro r
  have hcheck : check r = .ok () := check_withSoftParameter (by decide +kernel)
  have hvalue : (parameters r.parameters r.capacity)[Bound.soft.key]? = some "5" := by
    rw [parameters_bound, if_neg (by decide +kernel)]
    exact Std.ExtTreeMap.getElem?_insert_self
  refine ⟨hcheck, by decide +kernel, parameters r.parameters r.capacity, ?_, ?_, hvalue⟩
  · simp only [run_noting, hcheck, List.nil_append]
  · rw [← Std.ExtTreeMap.isSome_getElem?_iff_mem, hvalue]
    rfl

end Creation

end RealmDriver
