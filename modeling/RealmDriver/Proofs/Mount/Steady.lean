import Mathlib.Data.Nat.Find
import RealmDriver.Proofs.Coupling
import RealmDriver.Proofs.Mount.Recording

namespace RealmDriver

variable {σ σ' ε ε' α : Type}

namespace Action

def successes (values : ℕ → α) (n : ℕ) : List (Except ε α) := (List.range n).map fun i ↦ .ok (values i)

theorem successes_succ (values : ℕ → α) (n : ℕ) :
    (successes values (n + 1) : List (Except ε α)) = successes values n ++ [.ok (values n)] := by
  rw [successes, List.range_succ, List.map_append, List.map_singleton, successes]

/-- The same action, which also writes down how it ended each time. -/
def recording (a : Action σ ε α) : Action (List (Except ε α) × σ) ε α :=
  ofOutcome fun t ↦ ((a.outcome t.2).1, t.1 ++ [(a.outcome t.2).1], (a.outcome t.2).2)

theorem recording_paired (a : Action σ ε α) : Paired (fun s t ↦ s = t.2) Eq Eq a a.recording := by
  rintro _ t rfl
  exact ⟨.of_eq rfl fun _ _ ↦ rfl, rfl⟩

/-- The first times that the action is taken it gives these values, and these are the states on its way. -/
def Gives (a : Action σ ε α) (values : ℕ → α) (states : ℕ → σ) (n : ℕ) : Prop :=
  ∀ i < n, a.outcome (states i) = (.ok (values i), states (i + 1))

namespace Gives

variable {a : Action σ ε α} {values : ℕ → α} {states : ℕ → σ} {m n : ℕ}

theorem mono (h : a.Gives values states n) (hm : m ≤ n) : a.Gives values states m :=
  fun i hi ↦ h i (Nat.lt_of_lt_of_le hi hm)

theorem next_ne (h : a.Gives values states (n + 1)) (hdiffer : ∀ j < n, values j ≠ values (j + 1)) :
    ∀ j < n, (a.outcome (states (j + 1))).1 ≠ .ok (values j) := by
  intro j hj hsame
  rw [h (j + 1) (Nat.succ_lt_succ hj)] at hsame
  exact hdiffer j hj (Except.ok.inj hsame).symm

theorem recording (h : a.Gives values states n) :
    a.recording.Gives values (fun i ↦ (successes values i, states i)) n := by
  intro i hi
  rw [Action.recording, outcome_ofOutcome]
  dsimp only
  rw [h i hi, successes_succ]

end Gives

end Action

/-- Of some readings, numbered from zero, this one and the next agree, and no two in a row before them. -/
def IsFirstPair (contents : ℕ → α) (k : ℕ) : Prop :=
  contents k = contents (k + 1) ∧ ∀ j < k, contents j ≠ contents (j + 1)

theorem exists_isFirstPair [DecidableEq α] {contents : ℕ → α} {n : ℕ}
    (h : ∃ k < n, contents k = contents (k + 1)) : ∃ k < n, IsFirstPair contents k := by
  obtain ⟨k, hk, hsame⟩ := h
  have hpair : ∃ k, contents k = contents (k + 1) := ⟨k, hsame⟩
  exact ⟨Nat.find hpair, Nat.lt_of_le_of_lt (Nat.find_min' hpair hsame) hk, Nat.find_spec hpair,
    fun j hj ↦ Nat.find_min hpair hj⟩

section Reading

variable [DecidableEq α] {read : Action σ ε α} {contents : ℕ → α} {states : ℕ → σ} {s s' s'' : σ}
  {a : α} {e : ε} {k n : ℕ}

theorem readSteadily_paired {R : σ → σ' → Prop} {E : ε → ε' → Prop} {read' : Action σ' ε' α}
    (hread : Action.Paired R E Eq read read') (attempts : ℕ) :
    Action.Paired R E Eq (readSteadily read attempts) (readSteadily read' attempts) := by
  have hagain : ∀ last, Action.Paired R E Eq (readSteadily.again read attempts last)
      (readSteadily.again read' attempts last) := by
    induction attempts with
    | zero =>
      intro last
      exact .pure rfl
    | succ attempts ih =>
      intro last
      apply Action.Paired.bind hread
      rintro now _ rfl
      split
      · exact .pure rfl
      · exact ih now
  apply Action.Paired.bind hread
  rintro first _ rfl
  exact hagain first

theorem readSteadily_recording (read : Action σ ε α) (attempts : ℕ) (log : List (Except ε α)) (s : σ) :
    let done := (readSteadily read.recording attempts).outcome (log, s)
    (readSteadily read attempts).outcome s = (done.1, done.2.2) := by
  obtain ⟨hresult, hstate⟩ := readSteadily_paired read.recording_paired attempts s (log, s) rfl
  exact Prod.ext hresult.eq hstate

theorem readSteadily_failed (hread : read.outcome s = (.error e, s')) (attempts : ℕ) :
    (readSteadily read attempts).outcome s = (.error e, s') := by
  rw [readSteadily, Action.outcome_bind, hread]

theorem readSteadily_zero (hread : read.outcome s = (.ok a, s')) :
    (readSteadily read 0).outcome s = (.ok none, s') := by
  rw [readSteadily, Action.outcome_bind, hread]
  rfl

theorem readSteadily_same (hread : read.outcome s = (.ok a, s')) (hnext : read.outcome s' = (.ok a, s''))
    (attempts : ℕ) : (readSteadily read (attempts + 1)).outcome s = (.ok (some a), s'') := by
  simp only [readSteadily, readSteadily.again, Action.outcome_bind, hread, hnext, if_true,
    Action.outcome_pure]

theorem readSteadily_other (hread : read.outcome s = (.ok a, s')) (hnext : (read.outcome s').1 ≠ .ok a)
    (attempts : ℕ) :
    (readSteadily read (attempts + 1)).outcome s = (readSteadily read attempts).outcome s' := by
  simp only [readSteadily, readSteadily.again, Action.outcome_bind, hread]
  rcases hnow : read.outcome s' with ⟨e | now, s''⟩
  · -- a reading that fails ends it whether it is the first one or the second
    rfl
  · have hdiffer : now ≠ a := fun h ↦ hnext (by rw [hnow, h])
    simp only [hdiffer, if_false]

/-- The same of as many readings as there are in a row of which each is not repeated by the next. -/
theorem readSteadily_skip (hreads : read.Gives contents states k)
    (hnext : ∀ j < k, (read.outcome (states (j + 1))).1 ≠ .ok (contents j)) (attempts : ℕ) :
    (readSteadily read (k + attempts)).outcome (states 0) =
      (readSteadily read attempts).outcome (states k) := by
  -- each reading that is passed over takes one of the attempts, so their number stays general
  induction k generalizing attempts with
  | zero => rw [Nat.zero_add]
  | succ k ih =>
    have hskip := ih (hreads.mono (Nat.le_succ k)) (fun j hj ↦ hnext j (Nat.lt_succ_of_lt hj)) (attempts + 1)
    rw [Nat.succ_add_eq_add_succ, hskip]
    exact readSteadily_other (hreads k (Nat.lt_succ_self k)) (hnext k (Nat.lt_succ_self k)) attempts

theorem readSteadily_of_isFirstPair (hreads : read.Gives contents states (k + 2))
    (hpair : IsFirstPair contents k) (hk : k < n) :
    (readSteadily read n).outcome (states 0) = (.ok (some (contents k)), states (k + 2)) := by
  obtain ⟨attempts, rfl⟩ := Nat.exists_eq_add_of_lt hk
  have hfirst := hreads.mono (Nat.le_succ (k + 1))
  have hsecond := hreads (k + 1) (Nat.lt_succ_self _)
  rw [← hpair.1] at hsecond
  calc (readSteadily read (k + attempts + 1)).outcome (states 0)
    _ = (readSteadily read (attempts + 1)).outcome (states k) :=
        readSteadily_skip (hfirst.mono (Nat.le_succ k)) (hfirst.next_ne hpair.2) (attempts + 1)
    _ = (.ok (some (contents k)), states (k + 2)) :=
        readSteadily_same (hfirst k (Nat.lt_succ_self k)) hsecond attempts

theorem readSteadily_of_unsteady (hreads : read.Gives contents states (n + 1))
    (hdiffer : ∀ k < n, contents k ≠ contents (k + 1)) :
    (readSteadily read n).outcome (states 0) = (.ok none, states (n + 1)) := by
  calc (readSteadily read n).outcome (states 0)
    _ = (readSteadily read 0).outcome (states n) :=
        readSteadily_skip (hreads.mono (Nat.le_succ n)) (hreads.next_ne hdiffer) 0
    _ = (.ok none, states (n + 1)) := readSteadily_zero (hreads n (Nat.lt_succ_self n))

theorem readSteadily_of_failure (hreads : read.Gives contents states k)
    (hdiffer : ∀ j, j + 1 < k → contents j ≠ contents (j + 1))
    (hfailed : read.outcome (states k) = (.error e, s)) (hk : k ≤ n) :
    (readSteadily read n).outcome (states 0) = (.error e, s) := by
  obtain ⟨attempts, rfl⟩ := Nat.exists_eq_add_of_le hk
  have hnext : ∀ j < k, (read.outcome (states (j + 1))).1 ≠ .ok (contents j) := by
    intro j hj
    rcases Nat.lt_or_eq_of_le (Nat.succ_le_of_lt hj) with hlt | rfl
    · rw [hreads (j + 1) hlt]
      exact fun h ↦ hdiffer j hlt (Except.ok.inj h).symm
    · rw [hfailed]
      exact fun h ↦ nomatch h
  rw [readSteadily_skip hreads hnext, readSteadily_failed hfailed]

/-- **Steady reading.** Let the first readings, one more than there are attempts, give some contents. Then a
content is taken just if it is that of the first two readings in a row that agree, and nothing is read behind
those two. If no two agree, all these readings are made, no more, and nothing is taken. So what is taken is
what the last two readings that were made both gave. -/
theorem readSteadily_takes_first_pair (read : Action σ ε α) (attempts : ℕ) (contents : ℕ → α)
    (states : ℕ → σ) (hreads : read.Gives contents states (attempts + 1)) :
    let done := (readSteadily read.recording attempts).outcome ([], states 0)
    (readSteadily read attempts).outcome (states 0) = (done.1, done.2.2) ∧
    (∀ c, done.1 = .ok (some c) ↔ ∃ k < attempts, IsFirstPair contents k ∧ contents k = c) ∧
    (∀ k < attempts, IsFirstPair contents k →
      done.2 = (Action.successes contents (k + 2), states (k + 2))) ∧
    ((∀ k < attempts, contents k ≠ contents (k + 1)) →
      done = (.ok none, Action.successes contents (attempts + 1), states (attempts + 1))) ∧
    ∀ c, done.1 = .ok (some c) → [.ok c, .ok c] <:+ done.2.1 := by
  intro done
  have hpair {k : ℕ} (hk : k < attempts) (h : IsFirstPair contents k) :
      done = (.ok (some (contents k)), Action.successes contents (k + 2), states (k + 2)) :=
    readSteadily_of_isFirstPair (hreads.recording.mono (Nat.succ_le_succ hk)) h hk
  have hunsteady (h : ∀ k < attempts, contents k ≠ contents (k + 1)) :
      done = (.ok none, Action.successes contents (attempts + 1), states (attempts + 1)) :=
    readSteadily_of_unsteady hreads.recording h
  have htaken (c : α) : done.1 = .ok (some c) ↔ ∃ k < attempts, IsFirstPair contents k ∧ contents k = c := by
    constructor
    · intro hc
      by_cases hsome : ∃ k < attempts, contents k = contents (k + 1)
      · obtain ⟨k, hk, h⟩ := exists_isFirstPair hsome
        rw [hpair hk h] at hc
        exact ⟨k, hk, h, Option.some.inj (Except.ok.inj hc)⟩
      · rw [hunsteady fun k hk hsame ↦ hsome ⟨k, hk, hsame⟩] at hc
        cases hc
    · rintro ⟨k, hk, h, rfl⟩
      rw [hpair hk h]
  refine ⟨readSteadily_recording _ _ _ _, htaken, fun k hk h ↦ by rw [hpair hk h], hunsteady, ?_⟩
  intro c hc
  obtain ⟨k, hk, h, rfl⟩ := (htaken c).1 hc
  rw [hpair hk h]
  dsimp only
  rw [Action.successes_succ, Action.successes_succ, ← h.1, List.append_assoc]
  exact List.suffix_append _ _

def cutOnce (i : ℕ) : List UInt8 := if i = 1 then [97] else [97, 10]

/-- What was read before and after the cut was not read twice in a row until the fourth reading. -/
theorem readSteadily_takes_first_pair_of_cut :
    let read : Action ℕ SystemFault (List UInt8) := .ofOutcome fun i ↦ (.ok (cutOnce i), i + 1)
    read.Gives cutOnce id 4 ∧ read.Gives cutOnce id 3 ∧
      (readSteadily read.recording 3).outcome ([], 0) =
        (.ok (some [97, 10]), [.ok [97, 10], .ok [97], .ok [97, 10], .ok [97, 10]], 4) ∧
      (readSteadily read.recording 2).outcome ([], 0) =
        (.ok none, [.ok [97, 10], .ok [97], .ok [97, 10]], 3) := by
  intro read
  have hreads (n : ℕ) : read.Gives cutOnce id n := fun _ _ ↦ rfl
  have hpair : IsFirstPair cutOnce 2 := by
    rw [IsFirstPair]
    decide
  obtain ⟨-, htaken, hread, -⟩ := readSteadily_takes_first_pair read 3 cutOnce id (hreads 4)
  obtain ⟨-, -, -, hunsteady, -⟩ := readSteadily_takes_first_pair read 2 cutOnce id (hreads 3)
  refine ⟨hreads 4, hreads 3, ?_, ?_⟩
  · exact Prod.ext ((htaken _).2 ⟨2, by decide, hpair, rfl⟩) (hread 2 (by decide) hpair)
  · exact hunsteady (by decide)

end Reading

namespace HostMounter

variable {ω : Type} {m : Machine ω} {tables : ℕ → List UInt8} {outside : ℕ → ω} {n : ℕ}

theorem readBytes_gives (h : (Action.ofOutcome m.readTable).Gives tables outside n) (files : FileTree) :
    (readBytes m).Gives tables (fun i ↦ ⟨files, outside i⟩) n := by
  intro i hi
  have hread : m.readTable (outside i) = (.ok (tables i), outside (i + 1)) := h i hi
  simp only [readBytes, Host.onOutside, Action.outcome_rephrase, Action.outcome_on,
    Action.outcome_ofOutcome, hread]
  rfl

/-- The table that is listed is the first one that was read twice in a row. If a reading fails before that,
so does the listing, and without a failure it is given up when all attempts are used up. The files are left
alone. -/
theorem list_reads_steadily (files : FileTree)
    (hreads : (Action.ofOutcome m.readTable).Gives tables outside n) :
    let done := (list m).outcome ⟨files, outside 0⟩
    (∀ k < attempts, k + 2 ≤ n → IsFirstPair tables k →
      done = ((MountTable.read (tables k)).mapError .invalidTable, ⟨files, outside (k + 2)⟩)) ∧
    (attempts < n → (∀ k < attempts, tables k ≠ tables (k + 1)) →
      done = (.error (.unsteadyTable attempts), ⟨files, outside (attempts + 1)⟩)) ∧
    (n ≤ attempts → (∀ j, j + 1 < n → tables j ≠ tables (j + 1)) →
      ∀ fault o, m.readTable (outside n) = (.error fault, o) →
        done = (.error (.system fault), ⟨files, o⟩)) := by
  intro done
  have hgives := readBytes_gives hreads files
  refine ⟨fun k hk hn hpair ↦ ?_, fun hn hdiffer ↦ ?_, fun hn hdiffer fault o hfault ↦ ?_⟩
  · have hsteady := readSteadily_of_isFirstPair (hgives.mono hn) hpair hk
    exact (list_outcome_eq m _).trans (by rw [hsteady])
  · have hunsteady := readSteadily_of_unsteady (hgives.mono hn) hdiffer
    exact (list_outcome_eq m _).trans (by rw [hunsteady])
  · have hfailed : (readBytes m).outcome ⟨files, outside n⟩ = (.error (.system fault), ⟨files, o⟩) := by
      simp only [readBytes, Host.onOutside, Action.outcome_rephrase, Action.outcome_on,
        Action.outcome_ofOutcome, hfault]
      rfl
    exact (list_outcome_eq m _).trans (by rw [readSteadily_of_failure hgives hdiffer hfailed hn])

end HostMounter

end RealmDriver
