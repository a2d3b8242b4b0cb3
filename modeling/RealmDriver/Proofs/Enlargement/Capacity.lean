import RealmDriver.Controller.Basic
import RealmDriver.Proofs.Quota
import RealmDriver.Proofs.Realm.Memory
import RealmDriver.Proofs.Validation

namespace RealmDriver

theorem Controller.expand_outcome {σ : Type} (realm : Realm σ) (r : ExpandRequest) (s : σ) :
    (expand realm r).outcome s = match checkExpand r with
      | .error f => (.error f, s)
      | .ok () =>
        let done := (realm.expand r.volumeId r.capacity.required.toInt r.secrets).outcome s
        (afterExpand r done.1, done.2) := by
  simp only [expand, Action.outcome_bind, Action.outcome_ofExcept]
  cases checkExpand r with
  | error f => rfl
  | ok => simp only [Action.outcome_attempt]

theorem Controller.afterExpand_isOk (r : ExpandRequest) (answer : Except RealmError Unit) :
    (afterExpand r answer).isOk = answer.isOk := by
  cases answer with
  | ok => rfl
  | error e =>
    rw [afterExpand]
    split <;> rfl

namespace Enlargement

variable (m : RealmMemory) (name : String) (r : ExpandRequest)

def step : RealmMemory := ((Controller.expand RealmMemory.realm r).outcome m).2

def succeeds : Bool := ((Controller.expand RealmMemory.realm r).outcome m).1.isOk

def capacity : Nat := ((m.record? name).map VolumeRecord.softBytes).getD 0

def concerns : Bool := VolumeName.strip r.volumeId = VolumeName.strip name

variable {m r}

/-- An expansion brings its volume to the target, or fails and changes no volume. -/
theorem step_cases (m : RealmMemory) (r : ExpandRequest) :
    (succeeds m r = true ∧ ∃ record, m.record? r.volumeId = some record ∧
      step m r = m.enlarged r.volumeId r.capacity.required.toInt record) ∨
    (succeeds m r = false ∧ (step m r).volumes = m.volumes) := by
  unfold succeeds step
  rw [Controller.expand_outcome]
  cases hcheck : Controller.checkExpand r with
  | error f => exact .inr ⟨rfl, rfl⟩
  | ok =>
    simp only [Controller.afterExpand_isOk, RealmMemory.realm]
    rcases hdone : (RealmMemory.expand r.volumeId r.capacity.required.toInt).outcome m
      with ⟨e | ⟨⟩, m'⟩
    · have hsame := RealmMemory.of_expand_error m _ _ hdone
      exact .inr ⟨rfl, by rw [hsame, RealmMemory.called_volumes]⟩
    · exact .inl ⟨rfl, RealmMemory.of_expand_ok m _ _ hdone⟩

/-- After an expansion that succeeded its volume has the capacity that was asked for, as far as a quota
can tell; all other volumes are as before. -/
theorem capacity_step :
    capacity (step m r) name =
      if succeeds m r && concerns name r then Quota.stored r.capacity.required.toInt
      else capacity m name := by
  unfold capacity RealmMemory.record?
  rcases step_cases m r with ⟨hsucceeds, record, -, hstep⟩ | ⟨hfails, hsame⟩
  · rw [hsucceeds, hstep, RealmMemory.enlarged_volumes, Bool.true_and]
    by_cases hmine : VolumeName.strip r.volumeId = VolumeName.strip name
    · have hconcerns : concerns name r = true := decide_eq_true hmine
      rw [if_pos hmine, if_pos hconcerns]
      rfl
    · have hother : ¬concerns name r = true := fun h ↦ hmine (of_decide_eq_true h)
      rw [if_neg hmine, if_neg hother]
  · rw [hfails, hsame]
    rfl

def capacities : RealmMemory → List ExpandRequest → List Nat
  | m, [] => [capacity m name]
  | m, r :: rs => capacity m name :: capacities (step m r) rs

/-- What a volume is brought to by those of some requests that are for it and succeed. -/
def targets : RealmMemory → List ExpandRequest → List Nat
  | _, [] => []
  | m, r :: rs =>
    if succeeds m r && concerns name r then
      Quota.stored r.capacity.required.toInt :: targets (step m r) rs
    else targets (step m r) rs

theorem capacities_head (m : RealmMemory) (rs : List ExpandRequest) :
    ∃ rest, capacities name m rs = capacity m name :: rest := by
  cases rs with
  | nil => exact ⟨_, rfl⟩
  | cons r rs => exact ⟨_, rfl⟩

/-- Along a run of expansions a volume never shrinks just if each target is at least the one before
it, and the first at least the capacity at the start. -/
theorem capacities_isChain_iff (m : RealmMemory) (rs : List ExpandRequest) :
    (capacities name m rs).IsChain (· ≤ ·) ↔
      (capacity m name :: targets name m rs).IsChain (· ≤ ·) := by
  -- over all memories, since each request leaves another one to the requests behind it
  induction rs generalizing m with
  | nil => rfl
  | cons r rs ih =>
    obtain ⟨rest, hrest⟩ := capacities_head name (step m r) rs
    have htail := ih (step m r)
    rw [hrest, capacity_step] at htail
    simp only [capacities, targets]
    rw [hrest, capacity_step, List.isChain_cons_cons]
    by_cases hmine : (succeeds m r && concerns name r) = true
    · rw [if_pos hmine, if_pos hmine, List.isChain_cons_cons]
      rw [if_pos hmine] at htail
      exact and_congr_right fun _ ↦ htail
    · rw [if_neg hmine, if_neg hmine]
      rw [if_neg hmine] at htail
      rw [htail]
      exact and_iff_right le_rfl

/-- A request for five gigabytes takes five from a volume of ten. -/
theorem capacities_of_less :
    capacities "a" (RealmMemory.insert { name := "a", soft := Quota.ofBytes 10737418240 } {})
      [⟨"a", ⟨5368709120, 0⟩, Validation.adminSecrets, none⟩] =
      [10737418240, 5368709120] := by
  decide +kernel

theorem capacities_isChain_of_le (m : RealmMemory) (rs : List ExpandRequest)
    (hstart : ∀ r ∈ rs, capacity m name ≤ Quota.stored r.capacity.required.toInt)
    (hrising : rs.Pairwise fun r r' ↦ r.capacity.required.toInt ≤ r'.capacity.required.toInt) :
    (capacities name m rs).IsChain (· ≤ ·) := by
  have hsublist : (targets name m rs).Sublist
      (rs.map fun r ↦ Quota.stored r.capacity.required.toInt) := by
    clear hstart hrising
    induction rs generalizing m with
    | nil => exact List.Sublist.slnil
    | cons r rs ih =>
      unfold targets
      split
      · exact (ih _).cons_cons _
      · exact (ih _).cons _
  rw [capacities_isChain_iff]
  refine List.Pairwise.isChain (List.pairwise_cons.2 ⟨?_, ?_⟩)
  · intro bytes hbytes
    obtain ⟨r, hr, rfl⟩ := List.mem_map.1 (hsublist.subset hbytes)
    exact hstart r hr
  · refine List.Pairwise.sublist hsublist (List.pairwise_map.2 (hrising.imp ?_))
    exact Quota.stored_mono

end Enlargement

end RealmDriver
