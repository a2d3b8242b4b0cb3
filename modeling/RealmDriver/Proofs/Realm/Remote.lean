import Mathlib.Logic.Function.Basic
import RealmDriver.Proofs.Quota
import RealmDriver.Proofs.Realm.Field
import RealmDriver.Proofs.Realm.Session
import RealmDriver.Realm.Remote

namespace RealmDriver

namespace Remote

variable {ω : Type}

/-- A realm that keeps the quotas of a volume: it lists them when asked for the volume, sets one to
what it reads in a command that succeeds, and does not change them in a command that fails, which says
nothing of success. -/
structure KeepsQuotas (m : Machine ω) (name : String) (stored : ω → Bound → Quota) : Prop where
  query : ∀ {i files o f o'},
    i.arguments.getLast? = some (Shell.line (Command.lookup name)) →
    m.run i files o = (.ok f, o') → f.ending.isSuccess = true →
    stored o' = stored o ∧ ∃ records record,
      Listing.read (Text.decodeLossy f.output) = .ok records ∧
      records.find? (·.name = VolumeName.strip name) = some record ∧ record.quota = stored o
  set : ∀ {i files o f o'} (b : Bound) (text : String),
    i.arguments.getLast? =
      some (Shell.line ["volume", "set", b.name, VolumeName.path name, text]) →
    m.run i files o = (.ok f, o') → f.ending.isSuccess = true →
    ∃ q, Quota.read? text = some q ∧ stored o' = Function.update (stored o) b q
  failed : ∀ {i files o f o'}, m.run i files o = (.ok f, o') → f.ending.isSuccess = false →
    stored o' = stored o ∧ Verdict.marksSuccess (Text.decodeLossy f.output) = false
  broken : ∀ {i files o fault o'}, m.run i files o = (.error fault, o') → stored o' = stored o

variable (s : SessionSettings) {m : Machine ω} {name : String} {stored : ω → Bound → Quota}
  (target : Quota) (secrets : Dictionary) (h : Host ω)

/-- A command fails and changes no quota, or its program succeeds and the command is answered with
what that program printed. -/
theorem run_cases (hkeeps : KeepsQuotas m name stored) (command : List String) :
    (∃ e h', (Session.run s m secrets command).outcome h = (.error e, h') ∧
      stored h'.outside = stored h.outside) ∨
    ∃ i files f h', (Session.run s m secrets command).outcome h =
        (.ok (Text.decodeLossy f.output), h') ∧
      i.arguments.getLast? = some (Shell.line command) ∧
      m.run i files h.outside = (.ok f, h'.outside) ∧ f.ending.isSuccess = true := by
  have hcourse := Session.run_course m h s secrets command
  generalize (Session.run s m secrets command).outcome h = done at hcourse ⊢
  obtain ⟨answer, files', o'⟩ := done
  replace hcourse : Session.Course m _ h.outside answer o' := hcourse
  cases hcourse with
  | unstarted e => exact .inl ⟨e, _, rfl, rfl⟩
  | broken e hline hrun => exact .inl ⟨e, _, rfl, hkeeps.broken hrun⟩
  | @finished typed i files f _ hline hrun =>
    cases hend : f.ending.isSuccess with
    | false =>
      obtain ⟨hsame, hmark⟩ := hkeeps.failed hrun hend
      obtain ⟨e, he⟩ := Session.outcome_of_unmarked typed hend hmark
      rw [he]
      exact .inl ⟨e, _, rfl, hsame⟩
    | true =>
      refine .inr ⟨i, files, f, ⟨files', o'⟩, ?_, hline, hrun, hend⟩
      rw [Session.outcome, if_pos hend]

theorem lookup_cases (hkeeps : KeepsQuotas m name stored) :
    (∃ e h', (Session.run s m secrets (Command.lookup name)).outcome h = (.error e, h') ∧
      (lookup s m name secrets).outcome h = (.error e, h') ∧
      stored h'.outside = stored h.outside) ∨
    ∃ text record h',
      (Session.run s m secrets (Command.lookup name)).outcome h = (.ok text, h') ∧
      (lookup s m name secrets).outcome h = (.ok record, h') ∧
      record.quota = stored h.outside ∧ stored h'.outside = stored h.outside := by
  rcases run_cases s secrets h hkeeps (Command.lookup name) with
    ⟨e, h', hrun, hsame⟩ | ⟨i, files, f, h', hrun, hline, hprogram, hend⟩
  · refine .inl ⟨e, h', hrun, ?_, hsame⟩
    simp only [lookup, read, Action.outcome_bind, hrun]
  · obtain ⟨hsame, records, record, hread, hfind, hquota⟩ := hkeeps.query hline hprogram hend
    refine .inr ⟨_, record, h', hrun, ?_, hquota, hsame⟩
    simp only [lookup, read, Action.outcome_bind, hrun, Action.outcome_ofExcept, hread, hfind,
      Action.outcome_pure]

theorem setQuota_cases (hkeeps : KeepsQuotas m name stored) (b : Bound) :
    (∃ e h', (Session.run s m secrets (Command.setQuota name b target)).outcome h = (.error e, h') ∧
      stored h'.outside = stored h.outside) ∨
    ∃ text h', (Session.run s m secrets (Command.setQuota name b target)).outcome h =
        (.ok text, h') ∧
      stored h'.outside = Function.update (stored h.outside) b target := by
  rcases run_cases s secrets h hkeeps (Command.setQuota name b target)
    with ⟨e, h', hrun, hsame⟩ | ⟨i, files, f, h', hrun, hline, hprogram, hend⟩
  · exact .inl ⟨e, h', hrun, hsame⟩
  · obtain ⟨q, hq, hset⟩ := hkeeps.set b target.text hline hprogram hend
    rw [Quota.read?_text] at hq
    cases hq
    exact .inr ⟨_, h', hrun, hset⟩

def setAll (s : SessionSettings) (m : Machine ω) (name : String) (target : Quota)
    (secrets : Dictionary) (bounds : List Bound) : Action (Host ω) RealmError Unit :=
  bounds.forM fun b ↦ do let _ ← Session.run s m secrets (Command.setQuota name b target)

theorem forM_setQuota (bounds : List Bound) :
    ((bounds.map fun b ↦ Command.setQuota name b target).forM fun command ↦ do
      let _ ← Session.run s m secrets command) = setAll s m name target secrets bounds := by
  induction bounds with
  | nil => rfl
  | cons b bounds ih =>
    rw [List.map_cons]
    exact congrArg (_ >>= fun _ ↦ ·) ih

theorem setAll_cons (b : Bound) (bounds : List Bound) :
    setAll s m name target secrets (b :: bounds) = (do
      let _ ← Session.run s m secrets (Command.setQuota name b target)
      setAll s m name target secrets bounds) := by
  change (do
    let _ ← (do
      let _ ← Session.run s m secrets (Command.setQuota name b target)
      pure PUnit.unit)
    setAll s m name target secrets bounds) = _
  simp only [bind_assoc, pure_bind]

def replaced (target : Quota) (bounds : List Bound) (q : Bound → Quota) : Bound → Quota :=
  bounds.foldl (fun q b ↦ Function.update q b target) q

def allSucceed (s : SessionSettings) (m : Machine ω) (secrets : Dictionary) :
    List (List String) → Host ω → Bool
  | [], _ => true
  | command :: commands, h =>
    let done := (Session.run s m secrets command).outcome h
    done.1.isOk && allSucceed s m secrets commands done.2

variable {s target secrets h} in
theorem of_allSucceed_cons {command : List String} {commands : List (List String)}
    (hall : allSucceed s m secrets (command :: commands) h = true) :
    ∃ text h', (Session.run s m secrets command).outcome h = (.ok text, h') ∧
      allSucceed s m secrets commands h' = true := by
  rw [allSucceed, Bool.and_eq_true] at hall
  rcases hrun : (Session.run s m secrets command).outcome h with ⟨e | text, h'⟩
  · rw [hrun] at hall
    cases hall.1
  · rw [hrun] at hall
    exact ⟨text, h', rfl, hall.2⟩

/-- However far the commands get, what they leave is what the first of them say. -/
theorem setAll_replaced (hkeeps : KeepsQuotas m name stored) (bounds : List Bound) (h : Host ω) :
    ∃ k, stored ((setAll s m name target secrets bounds).outcome h).2.outside =
      replaced target (bounds.take k) (stored h.outside) := by
  induction bounds generalizing h with
  | nil => exact ⟨0, rfl⟩
  | cons b bounds ih =>
    rw [setAll_cons, Action.outcome_bind]
    rcases setQuota_cases s target secrets h hkeeps b with
      ⟨e, h', hrun, hsame⟩ | ⟨text, h', hrun, hset⟩
    · -- no command is run after one that failed
      rw [hrun]
      exact ⟨0, hsame⟩
    · rw [hrun]
      obtain ⟨k, hk⟩ := ih h'
      refine ⟨k + 1, ?_⟩
      rw [List.take_succ_cons, replaced, List.foldl_cons, ← hset]
      exact hk

theorem setAll_of_allSucceed (hkeeps : KeepsQuotas m name stored) (bounds : List Bound) (h : Host ω)
    (hall : allSucceed s m secrets (bounds.map fun b ↦ Command.setQuota name b target) h = true) :
    ∃ h', (setAll s m name target secrets bounds).outcome h = (.ok (), h') ∧
      stored h'.outside = replaced target bounds (stored h.outside) := by
  induction bounds generalizing h with
  | nil => exact ⟨h, rfl, rfl⟩
  | cons b bounds ih =>
    obtain ⟨text, h₁, hrun, hrest⟩ := of_allSucceed_cons hall
    obtain ⟨h₂, hdone, hreplaced⟩ := ih h₁ hrest
    refine ⟨h₂, ?_, ?_⟩
    · rw [setAll_cons, Action.outcome_bind, hrun]
      exact hdone
    · rcases setQuota_cases s target secrets h hkeeps b
        with ⟨e, h', hfailed, -⟩ | ⟨text', h', hset, hstored⟩
      · rw [hrun] at hfailed
        cases hfailed
      · rw [hrun] at hset
        cases hset
        rw [hreplaced, hstored]
        rfl

end Remote

end RealmDriver
