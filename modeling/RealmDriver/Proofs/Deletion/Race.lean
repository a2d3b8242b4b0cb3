import RealmDriver.Proofs.Controller.Guarded
import RealmDriver.Proofs.Creation.Built
import RealmDriver.Proofs.Interleaving

namespace RealmDriver.Deletion

open RealmMemory (SameAt)

/-- How far a deletion has come. In the end it is known whether the volume was there right before its
step and is not right behind it. -/
inductive Phase
  | waiting
  | ended (removed : Bool) (answer : Except Failure Unit)

def Phase.removed : Phase → Bool
  | .waiting => false
  | .ended removed _ => removed

def Phase.hasEnded : Phase → Bool
  | .waiting => false
  | .ended _ _ => true

def turn (r : DeleteRequest) : Phase → RealmMemory → Phase × RealmMemory
  | .waiting, m =>
    let done := (Controller.delete RealmMemory.realm r).outcome m
    let removed := (m.record? r.volumeId).isSome && (done.2.record? r.volumeId).isNone
    (.ended removed done.1, done.2)
  | .ended removed answer, m => (.ended removed answer, m)

theorem turn_ends (r : DeleteRequest) (p : Phase) (m : RealmMemory) :
    (turn r p m).1.hasEnded = true := by
  cases p <;> rfl

section

variable {r : DeleteRequest} {m : RealmMemory} {record : VolumeRecord}

theorem delete_known (hcheck : Controller.checkCredentials r.secrets = .ok ())
    (hm : m.failure = none) (h : m.record? r.volumeId = some record) :
    (Controller.delete RealmMemory.realm r).outcome m = (.ok (), m.without r.volumeId) := by
  rw [Controller.delete_eq, hcheck, Controller.guarded_admitted]
  simp only [RealmMemory.realm, RealmMemory.delete_outcome, RealmMemory.admission_of_no_failure hm, h]
  rfl

theorem delete_unknown (hcheck : Controller.checkCredentials r.secrets = .ok ())
    (hm : m.failure = none) (h : m.record? r.volumeId = none) :
    (Controller.delete RealmMemory.realm r).outcome m = (.ok (), m.called) := by
  rw [Controller.delete_eq, hcheck, Controller.guarded_admitted]
  simp only [RealmMemory.realm, RealmMemory.delete_outcome, RealmMemory.admission_of_no_failure hm, h,
    classify_missing]
  rfl

theorem turn_waiting (hcheck : Controller.checkCredentials r.secrets = .ok ()) (hm : m.failure = none) :
    ∃ s, turn r .waiting m = (.ended (m.record? r.volumeId).isSome (.ok ()), s) ∧ s.failure = none ∧
      ∀ k, s.volumes[k]? = if VolumeName.strip r.volumeId = k then none else m.volumes[k]? := by
  cases h : m.record? r.volumeId with
  | none =>
    refine ⟨m.called, ?_, hm, ?_⟩
    · simp only [turn, delete_unknown hcheck hm h, h]
      rfl
    · intro k
      split_ifs with hk
      · exact hk ▸ h
      · rfl
  | some record =>
    refine ⟨m.without r.volumeId, ?_, hm, m.without_volumes r.volumeId⟩
    have hnone : (m.without r.volumeId).record? r.volumeId = none := by
      rw [RealmMemory.record?, RealmMemory.without_volumes, if_pos rfl]
    simp only [turn, delete_known hcheck hm h, h, hnone]
    rfl

end

variable {ι : Type} (requests : ι → DeleteRequest) (key : String) (quiet : String → Prop)
  (m : RealmMemory)

structure Joint : Prop where
  name : ∀ i, VolumeName.strip (requests i).volumeId = key
  check : ∀ i, Controller.checkCredentials (requests i).secrets = .ok ()

abbrev Race (ι : Type) := Crowd ι Phase RealmMemory

def Race.start : Race ι := ⟨fun _ ↦ .waiting, m⟩

abbrev Race.advance [DecidableEq ι] (c : Race ι) (i : ι) : Race ι :=
  Crowd.advance (fun i ↦ turn (requests i)) c i

abbrev Race.Run [DecidableEq ι] : Race ι → Race ι → Prop :=
  Crowd.Run (fun i ↦ turn (requests i)) (SameAt quiet)

structure Untouched (c : Race ι) : Prop where
  same : c.shared.volumes[key]? = m.volumes[key]?
  waiting : ∀ i, c.phase i = .waiting

/-- Of the deletions that have ended, the first one has removed the volume, if it ever was there. -/
structure Gone (c : Race ι) : Prop where
  absent : c.shared.volumes[key]? = none
  content : ∀ i, c.phase i = .waiting ∨ ∃ removed, c.phase i = .ended removed (.ok ())
  first : ∃ w, ∀ i, (c.phase i).removed = true ↔ i = w ∧ (m.volumes[key]?).isSome = true

structure Inv (c : Race ι) : Prop where
  failure : c.shared.failure = none
  others : ∀ k, quiet k → k ≠ key → c.shared.volumes[k]? = m.volumes[k]?
  stage : Untouched key m c ∨ Gone key m c

variable {requests key quiet m} {c : Race ι}

theorem Inv.start (hm : m.failure = none) : Inv key quiet m (Race.start m : Race ι) :=
  ⟨hm, fun _ _ _ ↦ rfl, .inl ⟨rfl, fun _ ↦ rfl⟩⟩

theorem Inv.sameAt {s : RealmMemory} (hquiet : quiet key) (h : Inv key quiet m c)
    (hs : SameAt quiet c.shared s) : Inv key quiet m ⟨c.phase, s⟩ := by
  have hsame := hs.volumes key hquiet
  refine ⟨hs.failure.trans h.failure, ?_, ?_⟩
  · intro k hk hne
    exact (hs.volumes k hk).trans (h.others k hk hne)
  · rcases h.stage with huntouched | hgone
    · exact .inl ⟨hsame.trans huntouched.same, huntouched.waiting⟩
    · exact .inr ⟨hsame.trans hgone.absent, hgone.content, hgone.first⟩

theorem Inv.gone_of_ended (h : Inv key quiet m c) {i : ι} (hended : (c.phase i).hasEnded = true) :
    Gone key m c := by
  rcases h.stage with huntouched | hgone
  · rw [huntouched.waiting i] at hended
    cases hended
  · exact hgone

theorem Inv.content (h : Inv key quiet m c) (i : ι) :
    c.phase i = .waiting ∨ ∃ removed, c.phase i = .ended removed (.ok ()) := by
  rcases h.stage with huntouched | hgone
  · exact .inl (huntouched.waiting i)
  · exact hgone.content i

variable [DecidableEq ι]

/-- The first deletion that takes its step has removed the volume if it was there, and those behind it
find none. -/
theorem Inv.first (h : Inv key quiet m c) {i : ι} (hwaiting : c.phase i = .waiting) :
    ∃ w, ∀ j, (Function.update c.phase i (.ended (c.shared.volumes[key]?).isSome (.ok ())) j).removed =
      true ↔ j = w ∧ (m.volumes[key]?).isSome = true := by
  rcases h.stage with huntouched | hgone
  · refine ⟨i, fun j ↦ ?_⟩
    by_cases hj : j = i
    · rw [hj, Function.update_self, huntouched.same]
      exact (and_iff_right rfl).symm
    · rw [Function.update_of_ne hj, huntouched.waiting j]
      constructor
      · intro hremoved
        cases hremoved
      · intro hfirst
        exact absurd hfirst.1 hj
  · obtain ⟨w, hw⟩ := hgone.first
    refine ⟨w, fun j ↦ ?_⟩
    by_cases hj : j = i
    · rw [← hw j, hj, Function.update_self, hgone.absent, hwaiting]
      rfl
    · rw [Function.update_of_ne hj]
      exact hw j

theorem Inv.advance (hj : Joint requests key) (h : Inv key quiet m c) (i : ι) :
    Inv key quiet m (Race.advance requests c i) := by
  rcases hphase : c.phase i with _ | ⟨removed, answer⟩
  · obtain ⟨s, hturn, hfailure, hvolumes⟩ := turn_waiting (hj.check i) h.failure
    rw [RealmMemory.record?, hj.name i] at hturn
    rw [hj.name i] at hvolumes
    have hadvance : Race.advance requests c i =
        ⟨Function.update c.phase i (.ended (c.shared.volumes[key]?).isSome (.ok ())), s⟩ := by
      rw [Race.advance, Crowd.advance, hphase, hturn]
    rw [hadvance]
    refine ⟨hfailure, ?_, .inr ⟨?_, ?_, h.first hphase⟩⟩
    · intro k hk hne
      rw [hvolumes, if_neg hne.symm]
      exact h.others k hk hne
    · rw [hvolumes, if_pos rfl]
    · intro j
      by_cases hji : j = i
      · rw [hji]
        exact .inr ⟨_, Function.update_self ..⟩
      · simpa only [Function.update_of_ne hji] using h.content j
  · -- one that has ended does nothing more
    have hsame : Race.advance requests c i = c := by
      rw [Race.advance, Crowd.advance, hphase]
      simp only [turn, ← hphase, Function.update_eq_self]
    rw [hsame]
    exact h

theorem Inv.of_run (hj : Joint requests key) (hquiet : quiet key) (hm : m.failure = none)
    (hrun : Race.Run requests quiet (Race.start m) c) : Inv key quiet m c := by
  refine Crowd.Run.invariant ?_ ?_ hrun (Inv.start hm)
  · intro c i h
    exact h.advance hj i
  · intro c s h hs
    exact h.sameAt hquiet hs

/-- However the steps of deletions of one volume fall, and whatever others do elsewhere: each of them
ends with its next step, and succeeds; the other quiet volumes stay as they are. As soon as one has
ended, the volume is gone, and exactly one of them has removed it if it was there at the start, none
otherwise. What is then created under the name comes from the new request alone. -/
theorem removes_once (hj : Joint requests key) (hquiet : quiet key) (hm : m.failure = none)
    (hrun : Race.Run requests quiet (Race.start m) c) :
    (∀ i s, (turn (requests i) (c.phase i) s).1.hasEnded = true) ∧
    (∀ i removed answer, c.phase i = .ended removed answer → answer = .ok ()) ∧
    (∀ k, quiet k → k ≠ key → c.shared.volumes[k]? = m.volumes[k]?) ∧
    ((∃ i, (c.phase i).hasEnded = true) →
      c.shared.volumes[key]? = none ∧
      (∀ old, m.volumes[key]? = some old → ∃ w, ∀ i, (c.phase i).removed = true ↔ i = w) ∧
      (m.volumes[key]? = none → ∀ i, (c.phase i).removed = false) ∧
      ∀ r : CreateRequest, Creation.check r = .ok () → VolumeName.strip r.name = key →
        (∃ record, Creation.BuiltFrom c.shared.reportedEncryption r record ∧
          (Creation.run RealmMemory.realm r).outcome c.shared =
            (.ok (Creation.ofNew r record), RealmMemory.insert record c.shared.attempted)) ∨
        (∃ b e, RealmMemory.quota (Creation.parameters r.parameters r.capacity) b = .error e) ∧
          ∃ f, (Creation.run RealmMemory.realm r).outcome c.shared = (.error f, c.shared.attempted)) := by
  have hinv := Inv.of_run hj hquiet hm hrun
  refine ⟨fun i s ↦ turn_ends _ _ s, ?_, hinv.others, ?_⟩
  · intro i removed answer hphase
    rcases hinv.content i with hwaiting | ⟨_, hended⟩
    · rw [hphase] at hwaiting
      cases hwaiting
    · rw [hphase] at hended
      cases hended
      rfl
  · rintro ⟨i, hended⟩
    have hgone := hinv.gone_of_ended hended
    obtain ⟨w, hw⟩ := hgone.first
    refine ⟨hgone.absent, ?_, ?_, ?_⟩
    · intro old hold
      refine ⟨w, fun j ↦ (hw j).trans ?_⟩
      rw [hold]
      exact and_iff_left rfl
    · intro hnever j
      rw [Bool.eq_false_iff]
      intro hremoved
      have hpresent := ((hw j).1 hremoved).2
      rw [hnever] at hpresent
      cases hpresent
    · intro r hcheck hname
      refine Creation.run_absent hinv.failure hcheck ?_
      rw [RealmMemory.record?, hname]
      exact hgone.absent

def twice : Bool → DeleteRequest
  | true => ⟨"a", Validation.adminSecrets⟩
  | false => ⟨"/a", Validation.adminSecrets⟩

theorem twice_joint : Joint twice "a" := by
  constructor
  · decide
  · rintro (_ | _) <;> rfl

def raided : RealmMemory :=
  RealmMemory.insert (({ name := "a" } : VolumeRecord).setValue .layout "raid10") {}

theorem removes_once_of_two :
    ∃ c : Race Bool, Race.Run twice (fun _ ↦ True) (Race.start raided) c ∧
      (∃ w, ∀ i, (c.phase i).removed = true ↔ i = w) ∧
      ∃ record, ((Creation.run RealmMemory.realm (Creation.bare "a" ⟨0, 0⟩)).outcome
        c.shared).2.record? "a" = some record ∧ record.value .layout = "" := by
  have hrun : Race.Run twice (fun _ ↦ True) (Race.start raided)
      (Race.advance twice (Race.advance twice (Race.start raided) true) false) :=
    (Relation.ReflTransGen.single (.own _ true)).tail (.own _ false)
  have hpresent : ∃ old, raided.volumes["a"]? = some old := Option.isSome_iff_exists.1 (by decide)
  obtain ⟨-, -, -, hgone⟩ := removes_once twice_joint trivial rfl hrun
  obtain ⟨-, honce, -, hlater⟩ := hgone ⟨true, by decide +kernel⟩
  obtain ⟨old, hold⟩ := hpresent
  have hname : VolumeName.strip "a" = "a" := by decide
  refine ⟨_, hrun, honce old hold, ?_⟩
  rcases hlater (Creation.bare "a" ⟨0, 0⟩) (Creation.check_bare (by decide) rfl) hname
    with ⟨record, hbuilt, houtcome⟩ | ⟨⟨b, e, hunread⟩, -⟩
  · refine ⟨record, ?_, (hbuilt.value .layout).trans ?_⟩
    · rw [houtcome, RealmMemory.insert_record?]
      exact if_pos hbuilt.name
    · rfl
  · have hkeys : ∀ b : Bound, (∅ : Dictionary)[b.key]? = none := fun _ ↦ Std.ExtTreeMap.getElem?_empty
    obtain ⟨q, hq⟩ := Creation.quota_of_no_keys hkeys (some ⟨0, 0⟩) b
    exact absurd (hunread.symm.trans hq) (by simp)

end RealmDriver.Deletion
