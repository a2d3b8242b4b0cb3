import RealmDriver.Proofs.Frame
import RealmDriver.Proofs.Quota
import RealmDriver.Proofs.Realm.Memory
import RealmDriver.Proofs.Validation

namespace RealmDriver

theorem Bound.key_inj {b b' : Bound} : b.key = b'.key ↔ b = b' := by
  cases b <;> cases b' <;> decide

namespace Creation

variable {r : CreateRequest} {m m' : RealmMemory} {c : Created} {record : VolumeRecord}

theorem quota_withQuota (b b' : Bound) (bytes : Int64) (d : Dictionary) :
    RealmMemory.quota (withQuota b bytes d) b' =
      if b = b' ∧ 0 < bytes then .ok (Quota.ofBytes bytes.toInt) else RealmMemory.quota d b' := by
  rw [withQuota]
  by_cases hbytes : 0 < bytes
  · rw [if_pos hbytes, RealmMemory.quota, Std.ExtTreeMap.getElem?_insert]
    simp only [Std.LawfulEqOrd.compare_eq_iff_eq, Bound.key_inj]
    by_cases hb : b = b'
    · rw [if_pos hb, if_pos ⟨hb, hbytes⟩]
      simp only [Quota.read?_text]
    · rw [if_neg hb, if_neg fun h ↦ hb h.1, RealmMemory.quota]
  · rw [if_neg hbytes, if_neg fun h ↦ hbytes h.2]

theorem quota_soft (given : Dictionary) (range : CapacityRange) :
    RealmMemory.quota (parameters given (some range)) .soft =
      if 0 < range.required then .ok (Quota.ofBytes range.required.toInt)
      else RealmMemory.quota given .soft := by
  simp [parameters, quota_withQuota]

theorem quota_hard (given : Dictionary) (range : CapacityRange) :
    RealmMemory.quota (parameters given (some range)) .hard =
      if 0 < range.limit then .ok (Quota.ofBytes range.limit.toInt)
      else RealmMemory.quota given .hard := by
  simp [parameters, quota_withQuota]

theorem quota_of_no_key {d : Dictionary} {b : Bound} (h : d[b.key]? = none) :
    RealmMemory.quota d b = .ok Binary64.zero := by
  rw [RealmMemory.quota, h]

theorem quota_of_no_keys {given : Dictionary} (h : ∀ b : Bound, given[b.key]? = none)
    (capacity : Option CapacityRange) (b : Bound) :
    ∃ q, RealmMemory.quota (parameters given capacity) b = .ok q := by
  cases capacity with
  | none => exact ⟨_, quota_of_no_key (h b)⟩
  | some range =>
    simp only [parameters, quota_withQuota]
    split
    · exact ⟨_, rfl⟩
    · split
      · exact ⟨_, rfl⟩
      · exact ⟨_, quota_of_no_key (h b)⟩

def fresh (m : RealmMemory) (r : CreateRequest) : Except RealmError VolumeRecord :=
  m.created r.name (parameters r.parameters r.capacity)

theorem fresh_of_admitted (hm : m.admission = .ok ()) (h : m.record? r.name = some record) :
    fresh m r = .error (RealmMemory.taken r.name) :=
  RealmMemory.created_of_present hm (Option.isSome_of_eq_some h)

theorem fresh_of_known (hm : m.failure = none) (h : m.record? r.name = some record) :
    fresh m r = .error (RealmMemory.taken r.name) :=
  fresh_of_admitted (RealmMemory.admission_of_no_failure hm) h

theorem fresh_of_unknown {soft hard : Quota} (hm : m.failure = none)
    (h : m.record? r.name = none)
    (hsoft : RealmMemory.quota (parameters r.parameters r.capacity) .soft = .ok soft)
    (hhard : RealmMemory.quota (parameters r.parameters r.capacity) .hard = .ok hard) :
    fresh m r = .ok (m.newRecord (VolumeName.strip r.name) (parameters r.parameters r.capacity)
      soft hard) :=
  RealmMemory.created_of_absent (RealmMemory.admission_of_no_failure hm) h hsoft hhard

theorem of_fresh_ok (h : fresh m r = .ok record) :
    m.record? r.name = none ∧ ∃ soft hard,
      RealmMemory.quota (parameters r.parameters r.capacity) .soft = .ok soft ∧
      RealmMemory.quota (parameters r.parameters r.capacity) .hard = .ok hard ∧
      record = m.newRecord (VolumeName.strip r.name) (parameters r.parameters r.capacity) soft
        hard := RealmMemory.of_created_ok h

theorem fresh_name (h : fresh m r = .ok record) : record.name = VolumeName.strip r.name :=
  RealmMemory.created_name h

theorem fresh_soft {range : CapacityRange} (h : fresh m r = .ok record)
    (hrange : r.capacity = some range) (hpos : 0 < range.required) :
    record.soft = Quota.ofBytes range.required.toInt := by
  obtain ⟨-, soft, hard, hsoft, -, rfl⟩ := of_fresh_ok h
  rw [hrange, quota_soft, if_pos hpos] at hsoft
  cases hsoft
  exact RealmMemory.newRecord_soft m _ _ _ hard

theorem fresh_hard {range : CapacityRange} (h : fresh m r = .ok record)
    (hrange : r.capacity = some range) (hpos : 0 < range.limit) :
    record.hard = Quota.ofBytes range.limit.toInt := by
  obtain ⟨-, soft, hard, -, hhard, rfl⟩ := of_fresh_ok h
  rw [hrange, quota_hard, if_pos hpos] at hhard
  cases hhard
  exact RealmMemory.newRecord_hard m _ _ soft _

theorem afterCreate_error (r : CreateRequest) (e : RealmError) :
    afterCreate r (.error e) = .lookup ∨ ∃ f, afterCreate r (.error e) = .finish (.error f) := by
  rw [afterCreate]
  split
  · exact .inl rfl
  · exact .inr ⟨_, rfl⟩

theorem afterLookup_found (r : CreateRequest) (record : VolumeRecord) :
    (conflict? record r.capacity = none ∧
      afterLookup r (.ok record) = .ok { volume := volume record }) ∨
    ∃ conflict, conflict? record r.capacity = some conflict ∧
      afterLookup r (.ok record) = .error (.conflict conflict.message) := by
  rw [afterLookup]
  cases conflict? record r.capacity with
  | none => exact .inl ⟨rfl, rfl⟩
  | some conflict => exact .inr ⟨conflict, rfl, rfl⟩

theorem run_outcome {σ : Type} (realm : Realm σ) (s : σ) (h : check r = .ok ()) :
    (run realm r).outcome s =
      let first := (realm.create r.name (parameters r.parameters r.capacity) r.secrets).outcome s
      let second := (realm.lookup r.name r.secrets).outcome first.2
      match afterCreate r first.1 with
      | .finish outcome => (outcome, first.2)
      | .lookup => (afterLookup r second.1, second.2) := by
  simp only [run, Action.outcome_bind, Action.outcome_ofExcept, h, Action.outcome_attempt]
  cases afterCreate r _ with
  | finish outcome => rfl
  | lookup =>
    simp only [Action.outcome_bind, Action.outcome_ofExcept, Action.outcome_attempt]

theorem run_refused {σ : Type} (realm : Realm σ) (s : σ) {f : Failure} (h : check r = .error f) :
    (run realm r).outcome s = (.error f, s) := by
  simp only [run, Action.outcome_bind, Action.outcome_ofExcept, h]

theorem check_of_run_ok {σ : Type} {realm : Realm σ} {s s' : σ}
    (h : (run realm r).outcome s = (.ok c, s')) : check r = .ok () := by
  obtain ⟨⟨⟩, _, hcheck, -⟩ := Action.of_outcome_bind_ok h
  exact congrArg Prod.fst hcheck

theorem exists_record_of_run_ok {σ : Type} {realm : Realm σ} {I : σ → Prop} {Q : VolumeRecord → Prop}
    (hkeeps : (realm.create r.name (parameters r.parameters r.capacity) r.secrets).Within (Keeping I))
    (hcreate : ∀ s s' record, I s →
      (realm.create r.name (parameters r.parameters r.capacity) r.secrets).outcome s = (.ok record, s') →
      Q record)
    (hlookup : ∀ s s' record, I s → (realm.lookup r.name r.secrets).outcome s = (.ok record, s') →
      Q record)
    {s : σ} (hs : I s) (h : ((run realm r).outcome s).1 = .ok c) :
    ∃ record, c.volume = volume record ∧ Q record := by
  have hcheck : check r = .ok () := check_of_run_ok (Prod.ext h rfl)
  have hinv := hkeeps s hs
  have hcreated := fun s' record ↦ hcreate s s' record hs
  rw [run_outcome realm s hcheck] at h
  dsimp only at h
  generalize (realm.create r.name (parameters r.parameters r.capacity) r.secrets).outcome s = first
    at h hinv hcreated
  obtain ⟨e | record, s'⟩ := first
  -- the creation failed, and what is handed back is the volume that is there already
  · rcases afterCreate_error r e with hnext | ⟨f, hnext⟩
    · rw [hnext] at h
      have hfound := fun s'' record ↦ hlookup s' s'' record hinv
      dsimp only at h
      generalize (realm.lookup r.name r.secrets).outcome s' = second at h hfound
      obtain ⟨e | record, s''⟩ := second
      · cases h
      · rcases afterLookup_found r record with ⟨-, hafter⟩ | ⟨conflict, -, hafter⟩
        · rw [hafter] at h
          cases h
          exact ⟨record, rfl, hfound _ _ rfl⟩
        · rw [hafter] at h
          cases h
    · rw [hnext] at h
      cases h
  · cases h
    exact ⟨record, rfl, hcreated _ _ rfl⟩

theorem run_admitted (hm : m.admission = .ok ()) (hcheck : check r = .ok ())
    (h : m.record? r.name = some record) :
    (run RealmMemory.realm r).outcome m =
      (afterLookup r (.ok record), m.attempted.called) := by
  have hfound : m.attempted.found r.name = .ok record := by
    rw [RealmMemory.found, RealmMemory.attempted_admission, hm, RealmMemory.attempted_record?, h]
    rfl
  have hfresh := fresh_of_admitted hm h
  rw [fresh] at hfresh
  rw [run_outcome _ _ hcheck]
  simp only [RealmMemory.realm, RealmMemory.create_outcome, hfresh, RealmMemory.lookup_outcome,
    hfound]
  rfl

theorem run_known (hm : m.failure = none) (hcheck : check r = .ok ())
    (h : m.record? r.name = some record) :
    (run RealmMemory.realm r).outcome m = (afterLookup r (.ok record), m.attempted.called) :=
  run_admitted (RealmMemory.admission_of_no_failure hm) hcheck h

/-- Where the realm fails every call a creation fails, too, and tells the kind of the failure, whether
that looks as if the volume were there or not. -/
theorem run_failing {e : RealmError} (hm : m.admission = .error e) (hcheck : check r = .ok ()) :
    (run RealmMemory.realm r).outcome m =
      (.error (realmFailure "CreateVolume" e),
        if e.kind = .alreadyExists then m.attempted.called else m.attempted) := by
  have hcreated : m.created r.name (parameters r.parameters r.capacity) = .error e := by
    rw [RealmMemory.created, hm]
    rfl
  have hfound : m.attempted.found r.name = .error e := by
    rw [RealmMemory.found, RealmMemory.attempted_admission, hm]
    rfl
  rw [run_outcome _ _ hcheck]
  simp only [RealmMemory.realm, RealmMemory.create_outcome, hcreated, RealmMemory.lookup_outcome,
    hfound, afterCreate]
  cases e.kind with
  | alreadyExists => rfl
  | _ => rfl

theorem run_unadmitted {e : RealmError} (hm : m.admission = .error e) (hcheck : check r = .ok ()) :
    ∃ f, ((run RealmMemory.realm r).outcome m).1 = .error f :=
  ⟨_, congrArg Prod.fst (run_failing hm hcheck)⟩

theorem run_unknown (hcheck : check r = .ok ()) (h : fresh m r = .ok record) :
    (run RealmMemory.realm r).outcome m =
      (.ok (ofNew r record), RealmMemory.insert record m.attempted) := by
  rw [fresh] at h
  rw [run_outcome _ _ hcheck]
  simp only [RealmMemory.realm, RealmMemory.create_outcome, h]
  rfl

/-- A creation that succeeds has found its volume or added it. -/
theorem of_run_ok (hm : m.failure = none)
    (h : (run RealmMemory.realm r).outcome m = (.ok c, m')) :
    (∃ record, m.record? r.name = some record ∧ conflict? record r.capacity = none ∧
      c.volume = volume record ∧ m' = m.attempted.called) ∨
    ∃ record, fresh m r = .ok record ∧ c = ofNew r record ∧
      m' = RealmMemory.insert record m.attempted := by
  have hcheck := check_of_run_ok h
  cases hrecord : m.record? r.name with
  | some record =>
    rw [run_known hm hcheck hrecord, afterLookup] at h
    split at h
    · cases h
    · cases h
      exact .inl ⟨record, rfl, ‹_›, rfl, rfl⟩
  | none =>
    cases hfresh : fresh m r with
    | ok record =>
      rw [run_unknown hcheck hfresh] at h
      cases h
      exact .inr ⟨record, rfl, rfl, rfl⟩
    | error e =>
      have hfound : ∃ e', m.attempted.found r.name = .error e' := by
        rw [RealmMemory.found, RealmMemory.admission_of_no_failure (by exact hm),
          RealmMemory.attempted_record?, hrecord]
        exact ⟨_, rfl⟩
      obtain ⟨e', hfound⟩ := hfound
      rw [fresh] at hfresh
      rw [run_outcome _ _ hcheck] at h
      simp only [RealmMemory.realm, RealmMemory.create_outcome, hfresh,
        RealmMemory.lookup_outcome, hfound] at h
      rcases afterCreate_error r e with hnext | ⟨f, hnext⟩
      · rw [hnext] at h
        cases h
      · rw [hnext] at h
        cases h

def bare (name : String) (range : CapacityRange) : CreateRequest where
  name := name
  capacity := some range
  capabilities := [⟨.singleNodeWriter, .mount none []⟩]
  parameters := ∅
  secrets := Validation.adminSecrets
  source := none

theorem check_bare {name : String} {range : CapacityRange} (hname : name ≠ "")
    (h : Validation.capacityRange (some range) = .ok ()) : check (bare name range) = .ok () := by
  rw [check_ok_iff, Validation.creation_ok_iff]
  exact ⟨⟨hname, by simp [bare], by simp [bare, Access.isMount], by simp [bare], h, rfl⟩,
    Validation.credentials_adminSecrets⟩

theorem exists_run_bare (name : String) (range : CapacityRange) (hname : name ≠ "")
    (hcapacity : Validation.capacityRange (some range) = .ok ()) (hm : m.failure = none)
    (h : m.record? name = none) :
    ∃ record, fresh m (bare name range) = .ok record ∧
      (run RealmMemory.realm (bare name range)).outcome m =
        (.ok (ofNew (bare name range) record), RealmMemory.insert record m.attempted) := by
  have hkeys : ∀ b : Bound, (bare name range).parameters[b.key]? = none :=
    fun _ ↦ Std.ExtTreeMap.getElem?_empty
  obtain ⟨soft, hsoft⟩ := quota_of_no_keys hkeys (some range) .soft
  obtain ⟨hard, hhard⟩ := quota_of_no_keys hkeys (some range) .hard
  have hfresh := fresh_of_unknown (r := bare name range) hm h hsoft hhard
  exact ⟨_, hfresh, run_unknown (check_bare hname hcapacity) hfresh⟩

end Creation

end RealmDriver
