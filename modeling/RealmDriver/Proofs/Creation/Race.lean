import RealmDriver.Proofs.Creation.Outcome
import RealmDriver.Proofs.Interleaving
import RealmDriver.Proofs.Realm.Atomicity

namespace RealmDriver.Creation

open RealmMemory (SameAt)

/-- How far a creation has come. In the end it is known whether its own call has added the volume. -/
inductive Phase
  | waiting
  | looking
  | ended (added : Bool) (answer : Except Failure Created)

def Phase.added : Phase → Bool
  | .ended added _ => added
  | _ => false

def Phase.hasEnded : Phase → Bool
  | .ended _ _ => true
  | _ => false

/-- The next step of a creation, which makes at most one call on the realm. -/
def turn {σ : Type} (realm : Realm σ) (r : CreateRequest) : Phase → σ → Phase × σ
  | .waiting, s =>
    match check r with
    | .error f => (.ended false (.error f), s)
    | .ok () =>
      let first := (realm.create r.name (parameters r.parameters r.capacity) r.secrets).outcome s
      match afterCreate r first.1 with
      | .finish answer => (.ended first.1.isOk answer, first.2)
      | .lookup => (.looking, first.2)
  | .looking, s =>
    let second := (realm.lookup r.name r.secrets).outcome s
    (.ended false (afterLookup r second.1), second.2)
  | .ended added answer, s => (.ended added answer, s)

/-- The realm, when others always take a turn right before a look-up. -/
def disturbed {σ : Type} (realm : Realm σ) (others : σ → σ) : Realm σ :=
  { realm with
    lookup := fun name secrets ↦ do
      modify others
      realm.lookup name secrets }

def adds {σ : Type} (realm : Realm σ) (r : CreateRequest) (s : σ) : Bool :=
  (check r).isOk &&
    ((realm.create r.name (parameters r.parameters r.capacity) r.secrets).outcome s).1.isOk

/-- All steps of a creation, with a turn of others between the two calls if there are two. -/
def turns {σ : Type} (realm : Realm σ) (r : CreateRequest) (others : σ → σ) (s : σ) : Phase × σ :=
  let first := turn realm r .waiting s
  if first.1.hasEnded then first else turn realm r first.1 (others first.2)

/-- The steps are the creation itself, whatever happens between its calls. -/
theorem turns_eq_run {σ : Type} (realm : Realm σ) (r : CreateRequest) (others : σ → σ) (s : σ) :
    turns realm r others s = ((run (disturbed realm others) r).outcome s).map
      (Phase.ended (adds realm r s)) id := by
  cases hcheck : check r with
  | error f =>
    rw [run_refused _ s hcheck, adds, hcheck]
    simp only [turns, turn, hcheck]
    rfl
  | ok =>
    rw [run_outcome _ s hcheck, adds, hcheck]
    simp only [turns, turn, hcheck, disturbed, Action.outcome_bind, Action.outcome_modify]
    rcases (realm.create r.name _ r.secrets).outcome s with ⟨e | record, s'⟩
    · rcases afterCreate_error r e with hnext | ⟨f, hnext⟩
      · rw [hnext]
        rfl
      · rw [hnext]
        rfl
    · rfl

theorem turn_ends {σ : Type} (realm : Realm σ) (r : CreateRequest) (p : Phase) (s s' : σ) :
    (turn realm r (turn realm r p s).1 s').1.hasEnded = true := by
  cases p with
  | waiting =>
    cases hcheck : check r with
    | error f =>
      simp only [turn, hcheck]
      rfl
    | ok =>
      simp only [turn, hcheck]
      cases afterCreate r _ <;> rfl
  | looking => rfl
  | ended added answer => rfl

section

variable {r : CreateRequest} {m : RealmMemory} {record : VolumeRecord}

theorem turn_waiting_unknown (hcheck : check r = .ok ()) (h : fresh m r = .ok record) :
    turn RealmMemory.realm r .waiting m =
      (.ended true (.ok (ofNew r record)), RealmMemory.insert record m.attempted) := by
  rw [fresh] at h
  simp only [turn, hcheck, RealmMemory.realm, RealmMemory.create_outcome, h]
  rfl

theorem turn_waiting_known (hcheck : check r = .ok ()) (hm : m.failure = none)
    (h : m.record? r.name = some record) :
    turn RealmMemory.realm r .waiting m = (.looking, m.attempted) := by
  have hfresh := fresh_of_known hm h
  rw [fresh] at hfresh
  simp only [turn, hcheck, RealmMemory.realm, RealmMemory.create_outcome, hfresh]
  rfl

theorem turn_looking_known (hm : m.failure = none) (h : m.record? r.name = some record) :
    turn RealmMemory.realm r .looking m =
      (.ended false (afterLookup r (.ok record)), m.called) := by
  have hfound : m.found r.name = .ok record := by
    rw [RealmMemory.found, RealmMemory.admission_of_no_failure hm, h]
    rfl
  simp only [turn, RealmMemory.realm, RealmMemory.lookup_outcome, hfound]

end

variable {ι : Type} (requests : ι → CreateRequest) (key : String) (quiet : String → Prop)
  (m : RealmMemory)

/-- Requests for one volume that pass their checks and leave the quotas to their capacity ranges. -/
structure Rivals : Prop where
  name : ∀ i, VolumeName.strip (requests i).name = key
  check : ∀ i, check (requests i) = .ok ()
  plain : ∀ i (b : Bound), (requests i).parameters[b.key]? = none

abbrev Race (ι : Type) := Crowd ι Phase RealmMemory

def Race.start : Race ι := ⟨fun _ ↦ .waiting, m⟩

abbrev Race.advance [DecidableEq ι] (c : Race ι) (i : ι) : Race ι :=
  Crowd.advance (fun i ↦ turn RealmMemory.realm (requests i)) c i

/-- Any number of steps of the creations, and of others that leave the quiet names alone. -/
abbrev Race.Run [DecidableEq ι] : Race ι → Race ι → Prop :=
  Crowd.Run (fun i ↦ turn RealmMemory.realm (requests i)) (SameAt quiet)

/-- What may have become of a creation once its volume is there. -/
inductive Standing (r : CreateRequest) (record : VolumeRecord) : Phase → Prop
  | waiting : Standing r record .waiting
  | looking : Standing r record .looking
  | found : Standing r record (.ended false (afterLookup r (.ok record)))
  | added : Standing r record (.ended true (.ok (ofNew r record)))

/-- The volume was there from the start, or exactly one of the creations added it. -/
inductive Origin (record : VolumeRecord) (phase : ι → Phase) : Prop
  | before (hpresent : m.volumes[key]? = some record) (hnone : ∀ i, (phase i).added = false)
  | won (w : ι) (before : RealmMemory) (habsent : m.volumes[key]? = none)
      (hfresh : fresh before (requests w) = .ok record)
      (hadded : ∀ i, (phase i).added = true ↔ i = w)

structure Unsettled (c : Race ι) : Prop where
  absent : c.shared.volumes[key]? = none
  before : m.volumes[key]? = none
  waiting : ∀ i, c.phase i = .waiting

structure Settled (record : VolumeRecord) (c : Race ι) : Prop where
  present : c.shared.volumes[key]? = some record
  standing : ∀ i, Standing (requests i) record (c.phase i)
  origin : Origin requests key m record c.phase

structure Inv (c : Race ι) : Prop where
  failure : c.shared.failure = none
  others : ∀ k, quiet k → k ≠ key → c.shared.volumes[k]? = m.volumes[k]?
  stage : Unsettled key m c ∨ ∃ record, Settled requests key m record c

variable {requests key quiet m} {c : Race ι} {record : VolumeRecord}

theorem Rivals.record? (hr : Rivals requests key) (s : RealmMemory) (i : ι) :
    s.record? (requests i).name = s.volumes[key]? := by
  rw [RealmMemory.record?, hr.name i]

theorem Rivals.exists_fresh (hr : Rivals requests key) {s : RealmMemory} (hs : s.failure = none)
    (habsent : s.volumes[key]? = none) (i : ι) :
    ∃ record, fresh s (requests i) = .ok record ∧ record.name = key := by
  obtain ⟨soft, hsoft⟩ := quota_of_no_keys (hr.plain i) (requests i).capacity .soft
  obtain ⟨hard, hhard⟩ := quota_of_no_keys (hr.plain i) (requests i).capacity .hard
  have hfresh := fresh_of_unknown hs ((hr.record? s i).trans habsent) hsoft hhard
  exact ⟨_, hfresh, (fresh_name hfresh).trans (hr.name i)⟩

theorem Origin.congr {phase phase' : ι → Phase} (h : Origin requests key m record phase)
    (hsame : ∀ i, (phase' i).added = (phase i).added) : Origin requests key m record phase' := by
  cases h with
  | before hpresent hnone => exact .before hpresent fun i ↦ (hsame i).trans (hnone i)
  | won w before habsent hfresh hadded =>
    refine .won w before habsent hfresh fun i ↦ ?_
    rw [hsame i]
    exact hadded i

theorem Inv.start (hm : m.failure = none) :
    Inv requests key quiet m (Race.start m : Race ι) := by
  refine ⟨hm, fun _ _ _ ↦ rfl, ?_⟩
  cases hrecord : m.volumes[key]? with
  | none => exact .inl ⟨hrecord, hrecord, fun _ ↦ rfl⟩
  | some record =>
    exact .inr ⟨record, hrecord, fun _ ↦ .waiting, .before hrecord fun _ ↦ rfl⟩

theorem Inv.sameAt {s : RealmMemory} (hquiet : quiet key) (h : Inv requests key quiet m c)
    (hs : SameAt quiet c.shared s) : Inv requests key quiet m ⟨c.phase, s⟩ := by
  have hsame := hs.volumes key hquiet
  refine ⟨hs.failure.trans h.failure, ?_, ?_⟩
  · intro k hk hne
    exact (hs.volumes k hk).trans (h.others k hk hne)
  · rcases h.stage with hopen | ⟨record, hsettled⟩
    · exact .inl ⟨hsame.trans hopen.absent, hopen.before, hopen.waiting⟩
    · exact .inr ⟨record, hsame.trans hsettled.present, hsettled.standing, hsettled.origin⟩

/-- Once the volume is there, no step of a creation changes what is stored. -/
theorem turn_standing {r : CreateRequest} {p : Phase} {s : RealmMemory} (hcheck : check r = .ok ())
    (hs : s.failure = none) (h : s.record? r.name = some record) (hp : Standing r record p) :
    Standing r record (turn RealmMemory.realm r p s).1 ∧
      (turn RealmMemory.realm r p s).1.added = p.added ∧
      (turn RealmMemory.realm r p s).2.volumes = s.volumes ∧
      (turn RealmMemory.realm r p s).2.failure = none := by
  cases hp with
  | waiting =>
    rw [turn_waiting_known hcheck hs h]
    exact ⟨.looking, rfl, rfl, hs⟩
  | looking =>
    rw [turn_looking_known hs h]
    exact ⟨.found, rfl, rfl, hs⟩
  | found => exact ⟨.found, rfl, rfl, hs⟩
  | added => exact ⟨.added, rfl, rfl, hs⟩

theorem Standing.ne_internal {r : CreateRequest} {added : Bool} {text : String} :
    ¬Standing r record (.ended added (.error (.internal text))) := by
  intro h
  generalize hp : Phase.ended added (.error (.internal text)) = p at h
  cases h with
  | waiting => cases hp
  | looking => cases hp
  | found =>
    rcases afterLookup_found r record with ⟨-, h⟩ | ⟨conflict, -, h⟩
    · rw [h] at hp
      cases hp
    · rw [h] at hp
      cases hp
  | added => cases hp

theorem Standing.of_added {r : CreateRequest} {p : Phase} (h : Standing r record p)
    (hadded : p.added = true) : p = .ended true (.ok (ofNew r record)) := by
  cases h with
  | waiting => cases hadded
  | looking => cases hadded
  | found => cases hadded
  | added => rfl

theorem Standing.of_not_added {r : CreateRequest} {p : Phase} (h : Standing r record p)
    (hended : p.hasEnded = true) (hadded : p.added = false) :
    (conflict? record r.capacity = none ∧
      ∃ c', p = .ended false (.ok c') ∧ c'.volume = volume record) ∨
    ∃ conflict, conflict? record r.capacity = some conflict ∧
      p = .ended false (.error (.conflict conflict.message)) := by
  cases h with
  | waiting => cases hended
  | looking => cases hended
  | found =>
    rcases afterLookup_found r record with ⟨hfits, hanswer⟩ | ⟨conflict, hconflict, hanswer⟩
    · exact .inl ⟨hfits, _, by rw [hanswer], rfl⟩
    · exact .inr ⟨conflict, hconflict, by rw [hanswer]⟩
  | added => cases hadded

theorem Settled.of_absent (h : Settled requests key m record c)
    (habsent : m.volumes[key]? = none) :
    ∃ w, (∀ i, (c.phase i).added = true ↔ i = w) ∧
      (∃ before, fresh before (requests w) = .ok record) ∧
      ∃ c', c.phase w = .ended true (.ok c') ∧ c'.volume = volume record := by
  cases h.origin with
  | before hpresent _ =>
    rw [habsent] at hpresent
    cases hpresent
  | won w before _ hfresh hadded =>
    have hwon := (h.standing w).of_added ((hadded w).2 rfl)
    exact ⟨w, hadded, ⟨before, hfresh⟩, _, hwon, rfl⟩

theorem Settled.of_present (h : Settled requests key m record c) {old : VolumeRecord}
    (hold : m.volumes[key]? = some old) : record = old ∧ ∀ i, (c.phase i).added = false := by
  cases h.origin with
  | before hpresent hnone =>
    rw [hold] at hpresent
    cases hpresent
    exact ⟨rfl, hnone⟩
  | won w before habsent _ _ =>
    rw [hold] at habsent
    cases habsent

variable [DecidableEq ι]

theorem Inv.advance_unsettled (hr : Rivals requests key) (h : Inv requests key quiet m c)
    (hopen : Unsettled key m c) (i : ι) :
    Inv requests key quiet m (Race.advance requests c i) := by
  obtain ⟨record, hfresh, hname⟩ := hr.exists_fresh h.failure hopen.absent i
  have hturn : turn RealmMemory.realm (requests i) (c.phase i) c.shared =
      (.ended true (.ok (ofNew (requests i) record)),
        RealmMemory.insert record c.shared.attempted) := by
    rw [hopen.waiting i, turn_waiting_unknown (hr.check i) hfresh]
  have hshared : (Race.advance requests c i).shared =
      RealmMemory.insert record c.shared.attempted := congrArg Prod.snd hturn
  refine ⟨?_, ?_, .inr ⟨record, ?_, ?_, .won i c.shared hopen.before hfresh ?_⟩⟩
  · rw [hshared, RealmMemory.insert_failure, RealmMemory.attempted_failure]
    exact h.failure
  · intro k hk hne
    rw [hshared, RealmMemory.insert_volumes, hname, if_neg hne.symm]
    exact h.others k hk hne
  · rw [hshared, RealmMemory.insert_volumes, if_pos hname]
  · refine Crowd.forall_advance (P := fun j ↦ Standing (requests j) record) ?_ fun j _ ↦ ?_
    · rw [hturn]
      exact .added
    · rw [hopen.waiting j]
      exact .waiting
  · refine Crowd.forall_advance (P := fun j (p : Phase) ↦ p.added = true ↔ j = i) ?_ fun j hj ↦ ?_
    · rw [hturn]
      exact ⟨fun _ ↦ rfl, fun _ ↦ rfl⟩
    · rw [hopen.waiting j]
      constructor
      · intro hadded
        cases hadded
      · intro heq
        exact absurd heq hj

theorem Inv.advance_settled (hr : Rivals requests key) (h : Inv requests key quiet m c)
    (hsettled : Settled requests key m record c) (i : ι) :
    Inv requests key quiet m (Race.advance requests c i) := by
  obtain ⟨hstanding, hadded, hvolumes, hfailure⟩ := turn_standing (hr.check i) h.failure
    ((hr.record? c.shared i).trans hsettled.present) (hsettled.standing i)
  have hshared : (Race.advance requests c i).shared.volumes = c.shared.volumes := hvolumes
  refine ⟨hfailure, ?_, .inr ⟨record, ?_, ?_, hsettled.origin.congr ?_⟩⟩
  · rw [hshared]
    exact h.others
  · rw [hshared]
    exact hsettled.present
  · refine Crowd.forall_advance (P := fun j ↦ Standing (requests j) record) hstanding ?_
    intro j _
    exact hsettled.standing j
  · refine Crowd.forall_advance (P := fun j (p : Phase) ↦ p.added = (c.phase j).added) hadded ?_
    intro j _
    rfl

theorem Inv.of_run (hr : Rivals requests key) (hquiet : quiet key) (hm : m.failure = none)
    (hrun : Race.Run requests quiet (Race.start m) c) : Inv requests key quiet m c := by
  refine Crowd.Run.invariant ?_ ?_ hrun (Inv.start hm)
  · intro c i h
    -- the stage changes once, with the first step of all, and never back
    rcases h.stage with hopen | ⟨record, hsettled⟩
    · exact h.advance_unsettled hr hopen i
    · exact h.advance_settled hr hsettled i
  · intro c s h hs
    exact h.sameAt hquiet hs

/-- The steps of a creation are the creation itself, whatever comes between its calls, and any operation
that changes no quiet volume may come there. However the steps of rivals fall: each of them ends after at
most two more steps of its own, none for a failure of the realm, and the other quiet volumes stay as they
are. When all have ended, the volume is there; if it was not at the start, exactly one of them has
added it, for what that one asked for. Every other one has the same volume if that fits what it asked
for, and a conflict otherwise. -/
theorem race_outcome (hr : Rivals requests key) (hquiet : quiet key) (hm : m.failure = none)
    (hrun : Race.Run requests quiet (Race.start m) c) :
    (∀ i others s, turns RealmMemory.realm (requests i) others s =
      ((run (disturbed RealmMemory.realm others) (requests i)).outcome s).map
        (Phase.ended (adds RealmMemory.realm (requests i) s)) id) ∧
    (∀ (α : Type) (op : Realm.Operation α) secrets s,
      (∀ name, op.changed? = some name → ¬quiet (VolumeName.strip name)) →
      SameAt quiet s ((RealmMemory.realm.perform secrets op).outcome s).2) ∧
    (∀ i s, (turn RealmMemory.realm (requests i)
      (turn RealmMemory.realm (requests i) (c.phase i) c.shared).1 s).1.hasEnded = true) ∧
    (∀ i added text, c.phase i ≠ .ended added (.error (.internal text))) ∧
    (∀ k, quiet k → k ≠ key → c.shared.volumes[k]? = m.volumes[k]?) ∧
    (Nonempty ι → (∀ i, (c.phase i).hasEnded = true) →
      ∃ record, c.shared.volumes[key]? = some record ∧
        (m.volumes[key]? = none → ∃ w, (∀ i, (c.phase i).added = true ↔ i = w) ∧
          (∃ before, fresh before (requests w) = .ok record) ∧
          ∃ c', c.phase w = .ended true (.ok c') ∧ c'.volume = volume record) ∧
        (∀ old, m.volumes[key]? = some old → record = old ∧ ∀ i, (c.phase i).added = false) ∧
        ∀ i, (c.phase i).added = false →
          (conflict? record (requests i).capacity = none ∧
            ∃ c', c.phase i = .ended false (.ok c') ∧ c'.volume = volume record) ∨
          ∃ conflict, conflict? record (requests i).capacity = some conflict ∧
            c.phase i = .ended false (.error (.conflict conflict.message))) := by
  have hinv := Inv.of_run hr hquiet hm hrun
  refine ⟨fun i ↦ turns_eq_run _ _, ?_, ?_, ?_, hinv.others, ?_⟩
  · intro α op secrets s hchanged
    exact RealmMemory.perform_sameAt op secrets hchanged s
  · intro i s
    exact turn_ends _ _ _ _ _
  · intro i added text hphase
    rcases hinv.stage with hopen | ⟨record, hsettled⟩
    · rw [hopen.waiting i] at hphase
      cases hphase
    · exact Standing.ne_internal (hphase ▸ hsettled.standing i)
  · rintro ⟨i⟩ hended
    rcases hinv.stage with hopen | ⟨record, hsettled⟩
    · have hi := hended i
      rw [hopen.waiting i] at hi
      cases hi
    · refine ⟨record, hsettled.present, ?_, ?_, ?_⟩
      · intro habsent
        exact hsettled.of_absent habsent
      · intro old hold
        exact hsettled.of_present hold
      · intro i hadded
        exact (hsettled.standing i).of_not_added (hended i) hadded

def tenAndTwenty : Bool → CreateRequest
  | true => bare "a" ⟨10737418240, 0⟩
  | false => bare "/a" ⟨21474836480, 0⟩

theorem tenAndTwenty_rivals : Rivals tenAndTwenty "a" := by
  constructor
  · decide
  · rintro (_ | _)
    · exact check_bare (by decide) rfl
    · exact check_bare (by decide) rfl
  · rintro (_ | _) b
    · exact Std.ExtTreeMap.getElem?_empty
    · exact Std.ExtTreeMap.getElem?_empty

theorem race_outcome_of_two :
    ∃ c : Race Bool, Race.Run tenAndTwenty (fun _ ↦ True) (Race.start {}) c ∧
      (∀ i, (c.phase i).hasEnded = true) ∧ ∃ w, ∀ i, (c.phase i).added = true ↔ i = w := by
  have hrun : Race.Run tenAndTwenty (fun _ ↦ True) (Race.start {}) (Race.advance tenAndTwenty
      (Race.advance tenAndTwenty (Race.advance tenAndTwenty (Race.start {}) true) false) false) :=
    ((Relation.ReflTransGen.single (.own _ true)).tail (.own _ false)).tail (.own _ false)
  have hended : ∀ i, ((Race.advance tenAndTwenty (Race.advance tenAndTwenty
      (Race.advance tenAndTwenty (Race.start {}) true) false) false).phase i).hasEnded = true := by
    decide +kernel
  obtain ⟨-, -, -, -, -, hdecided⟩ := race_outcome tenAndTwenty_rivals trivial rfl hrun
  obtain ⟨record, -, hwon, -⟩ := hdecided ⟨true⟩ hended
  obtain ⟨w, hadded, -⟩ := hwon rfl
  exact ⟨_, hrun, hended, w, hadded⟩

end RealmDriver.Creation
