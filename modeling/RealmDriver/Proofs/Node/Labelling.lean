import Mathlib.Data.List.Perm.Subperm
import RealmDriver.Node.Readiness
import RealmDriver.Proofs.Action
import RealmDriver.Proofs.Interleaving
import RealmDriver.Rpc.Failure

namespace RealmDriver

def NodeInfo.label? (label : String) (i : NodeInfo) : Option String := i.topology.bind (·[label]?)

theorem Readiness.label?_info (node label : String) :
    (info node label (.ok true)).label? label = some "true" := by
  simp [NodeInfo.label?, info, Dictionary.ofList]

theorem Readiness.label?_info_of_ne {outcome : Except PatchError Bool} (h : outcome ≠ .ok true)
    (node label : String) : (info node label outcome).label? label = none := by
  rcases outcome with e | _ | _
  · simp [NodeInfo.label?, info]
  · simp [NodeInfo.label?, info]
  · exact absurd rfl h

namespace Labelling

open Readiness

variable {ι σ ε : Type}

inductive Event (ι : Type)
  | set (i : ι) (outcome : Except PatchError Bool)
  | stored (i : ι)
  | swapped (i : ι) (labelled : Bool)
  | cleared (i : ι) (outcome : Except PatchError Unit)

namespace Event

def author : Event ι → ι
  | set i _ => i
  | stored i => i
  | swapped i _ => i
  | cleared i _ => i

def isSet : Event ι → Bool
  | set _ (.ok true) => true
  | _ => false

def isStore : Event ι → Bool
  | stored _ => true
  | _ => false

def isSwap : Event ι → Bool
  | swapped _ labelled => labelled
  | _ => false

def isClear : Event ι → Bool
  | cleared _ _ => true
  | _ => false

end Event

/-- What the calls share, with all that has happened, the latest first. -/
structure Shared (ι σ : Type) where
  readiness : Readiness
  outside : σ
  log : List (Event ι)

/-- How far a call has come, be it one that sets the label or one that takes it away. -/
inductive Phase
  | announcing
  | told (outcome : Except PatchError Bool)
  | ended (outcome : Except PatchError Bool) (answer : NodeInfo × List Warning)
  | retracting
  | swapped
  | retracted (outcome : Option (Except PatchError Unit))

def Phase.hasEnded : Phase → Bool
  | .ended _ _ | .retracted _ => true
  | _ => false

section

variable (a : Annotator σ) (node label : String)

def turn (i : ι) : Phase → Shared ι σ → Phase × Shared ι σ
  | .announcing, s =>
    let done := (a.set node label).outcome s.outside
    (.told done.1, { s with outside := done.2, log := .set i done.1 :: s.log })
  | .told (.ok true), s =>
    (.ended (.ok true) (info node label (.ok true), warnings node (.ok true)),
      { s with readiness := s.readiness.stored, log := .stored i :: s.log })
  | .told outcome, s => (.ended outcome (info node label outcome, warnings node outcome), s)
  | .retracting, s =>
    let swap := s.readiness.swap
    (if swap.1 then .swapped else .retracted none,
      { s with readiness := swap.2, log := .swapped i swap.1 :: s.log })
  | .swapped, s =>
    let done := (a.clear node label).outcome s.outside
    (.retracted (some done.1), { s with outside := done.2, log := .cleared i done.1 :: s.log })
  | p, s => (p, s)

/-- The annotator, when others always take a turn right after a label is set and right before one is taken
away. -/
def disturbed (others : Readiness × σ → Readiness × σ) : Annotator (Readiness × σ) where
  set node label := (a.beside.set node label).andAlways others
  clear node label := do
    modify others
    a.beside.clear node label

/-- All steps of a call, with a turn of others in between if there are two. -/
def turns (others : Readiness × σ → Readiness × σ) (i : ι) (p : Phase) (s : Shared ι σ) :
    Phase × Shared ι σ :=
  let first := turn a node label i p s
  let between := others (first.2.readiness, first.2.outside)
  if first.1.hasEnded then first
  else turn a node label i first.1 { first.2 with readiness := between.1, outside := between.2 }

theorem turns_announcing (others : Readiness × σ → Readiness × σ) (i : ι) (s : Shared ι σ) :
    let done := turns a node label others i .announcing s
    ∃ answer, done.1 = .ended ((a.set node label).outcome s.outside).1 answer ∧
      (announceBy (disturbed a others) node label : Action _ ε _).outcome (s.readiness, s.outside) =
        (.ok answer, done.2.readiness, done.2.outside) := by
  rcases hset : (a.set node label).outcome s.outside with ⟨e | _ | _, outside⟩ <;>
    simp [-bind_pure_comp, turns, turn, announceBy, disturbed, Annotator.beside, Phase.hasEnded,
      Action.outcome_bind, hset]

theorem turns_retracting (others : Readiness × σ → Readiness × σ) (i : ι) (s : Shared ι σ) :
    let done := turns a node label others i .retracting s
    ∃ outcome, done.1 = .retracted outcome ∧ outcome.isSome = s.readiness.labelled ∧
      (retractBy (disturbed a others) node label : Action _ ε _).outcome (s.readiness, s.outside) =
        (.ok (), done.2.readiness, done.2.outside) := by
  cases hlabelled : s.readiness.labelled <;>
    simp [-bind_pure_comp, turns, turn, retractBy, disturbed, Annotator.beside, Phase.hasEnded,
      Action.outcome_bind, swap, hlabelled]

theorem disturbed_id : disturbed a id = a.beside := rfl

theorem announce_eq :
    (announce a node label : Action _ ε _) = announceBy (disturbed a id) node label := by
  rw [disturbed_id, announce]

theorem retract_eq :
    (retract a node label : Action _ ε _) = retractBy (disturbed a id) node label := by
  rw [disturbed_id, retract]

end

/-- What a call has done by a phase of it, the latest first. -/
def trace (i : ι) : Phase → List (Event ι)
  | .told outcome => [.set i outcome]
  | .ended (.ok true) _ => [.stored i, .set i (.ok true)]
  | .ended outcome _ => [.set i outcome]
  | .swapped => [.swapped i true]
  | .retracted (some outcome) => [.cleared i outcome, .swapped i true]
  | .retracted none => [.swapped i false]
  | _ => []

/-- The label was stored later than it was last found by a swap. -/
def isArmed : List (Event ι) → Bool
  | [] => false
  | .stored _ :: _ => true
  | .swapped _ labelled :: past => !labelled && isArmed past
  | _ :: past => isArmed past

def SwapsMatch : List (Event ι) → Prop
  | [] => True
  | .swapped _ labelled :: past => labelled = isArmed past ∧ SwapsMatch past
  | _ :: past => SwapsMatch past

theorem SwapsMatch.tail {e : Event ι} {past : List (Event ι)} (h : SwapsMatch (e :: past)) :
    SwapsMatch past := by
  cases e with
  | swapped i labelled => exact h.2
  | set | stored | cleared => exact h

theorem SwapsMatch.suffix {log past : List (Event ι)} (h : SwapsMatch log) (hpast : past <:+ log) :
    SwapsMatch past := by
  obtain ⟨later, rfl⟩ := hpast
  induction later with
  | nil => exact h
  | cons e later ih => exact ih h.tail

theorem exists_of_isArmed {log : List (Event ι)} (h : isArmed log = true) :
    ∃ between j before, log = between ++ .stored j :: before ∧ ∀ e ∈ between, e.isSwap = false := by
  induction log with
  | nil => simp [isArmed] at h
  | cons e past ih =>
    rcases e with _ | j | ⟨i, _ | _⟩ | _
    case stored => exact ⟨[], j, past, rfl, by simp⟩
    case swapped.true => simp [isArmed] at h
    all_goals
      obtain ⟨between, j, before, rfl, hbetween⟩ := ih h
      exact ⟨_ :: between, j, before, rfl, List.forall_mem_cons.2 ⟨rfl, hbetween⟩⟩

theorem countP_isSwap_le {log : List (Event ι)} (h : SwapsMatch log) :
    log.countP Event.isSwap + (isArmed log).toNat ≤ log.countP Event.isStore := by
  induction log with
  | nil => simp [isArmed]
  | cons e past ih =>
    have hpast := ih h.tail
    have hone := (isArmed past).toNat_le
    cases e with
    | set | cleared => simpa [isArmed, Event.isSwap, Event.isStore] using hpast
    | stored j =>
      simp [isArmed, Event.isSwap, Event.isStore, List.countP_cons]
      omega
    | swapped i labelled =>
      -- a swap that finds the label uses up the store behind it, so the slack is gone
      obtain ⟨rfl, -⟩ := h
      cases harmed : isArmed past <;>
        simpa [isArmed, Event.isSwap, Event.isStore, List.countP_cons, harmed] using hpast

section

variable {a : Annotator σ} {node label : String} {s : Shared ι σ}

/-- A step adds to the log what it adds to the trace of its call, one event or nothing. -/
theorem turn_log (i : ι) (p : Phase) (s : Shared ι σ) :
    (∃ e : Event ι, e.author = i ∧ (turn a node label i p s).2.log = e :: s.log ∧
      trace i (turn a node label i p s).1 = e :: trace i p) ∨
    ((turn a node label i p s).2.log = s.log ∧ trace i (turn a node label i p s).1 = trace i p) := by
  rcases p with _ | (e | _ | _) | _ | _ | _ | _
  case retracting => cases hswap : s.readiness.swap.1 <;> simp [turn, trace, Event.author, hswap]
  all_goals simp [turn, trace, Event.author]

/-- The memory is what the log says it is, and so was what each swap has found. -/
structure Kept (s : Shared ι σ) : Prop where
  labelled : s.readiness.labelled = isArmed s.log
  swaps : SwapsMatch s.log

theorem Kept.turn (h : Kept s) (i : ι) (p : Phase) : Kept (turn a node label i p s).2 := by
  rcases p with _ | (e | _ | _) | _ | _ | _ | _ <;>
    constructor <;> simp [Labelling.turn, isArmed, stored, swap, SwapsMatch, h.labelled, h.swaps]

end

theorem trace_countP_isClear (i : ι) (p : Phase) :
    (trace i p).countP Event.isClear ≤ (trace i p).countP Event.isSwap := by
  rcases p with _ | _ | ⟨_ | _ | _, _⟩ | _ | _ | _ | _ <;>
    simp [trace, Event.isClear, Event.isSwap, List.countP_cons]

theorem trace_countP_isStore (i : ι) (p : Phase) :
    (trace i p).countP Event.isStore ≤ (trace i p).countP Event.isSet := by
  rcases p with _ | _ | ⟨_ | _ | _, _⟩ | _ | _ | _ | _ <;>
    simp [trace, Event.isStore, Event.isSet, List.countP_cons]

section

variable [DecidableEq ι]

def own (i : ι) (log : List (Event ι)) : List (Event ι) := log.filter (·.author = i)

/-- What no author does more often than something else is not done more often by all of them. -/
theorem countP_le_of_own {p q : Event ι → Bool} {log : List (Event ι)}
    (h : ∀ i, (own i log).countP p ≤ (own i log).countP q) : log.countP p ≤ log.countP q := by
  have hsubperm : ((log.filter p).map Event.author).Subperm ((log.filter q).map Event.author) := by
    rw [List.subperm_ext_iff]
    intro i _
    simpa [own, List.count, List.countP_map, List.countP_filter, Function.comp_def, Bool.and_comm,
      Bool.beq_eq_decide_eq] using h i
  simpa [List.countP_eq_length_filter] using hsubperm.length_le

variable {i : ι} {p : Phase} {past log : List (Event ι)}

theorem cons_own_suffix {e : Event ι} (he : e.author = i) (h : e :: past <:+ log) :
    e :: own i past <:+ own i log := by
  simpa [own, he] using h.filter (·.author = i)

theorem swapped_of_cleared {outcome : Except PatchError Unit} (hown : own i log = trace i p)
    (h : .cleared i outcome :: past <:+ log) : .swapped i true ∈ past := by
  have hsuffix := cons_own_suffix rfl h
  rw [Event.author, hown] at hsuffix
  rcases p with _ | _ | ⟨_ | _ | _, _⟩ | _ | _ | _ | _ <;>
    simp [trace, List.suffix_cons_iff] at hsuffix
  -- only a call that has ended by taking the label away is left
  exact List.mem_of_mem_filter (hsuffix.2 ▸ List.mem_singleton_self _)

theorem set_of_stored (hown : own i log = trace i p) (h : .stored i :: past <:+ log) :
    .set i (.ok true) ∈ past := by
  have hsuffix := cons_own_suffix rfl h
  rw [Event.author, hown] at hsuffix
  rcases p with _ | _ | ⟨_ | _ | _, _⟩ | _ | _ | _ | _ <;>
    simp [trace, List.suffix_cons_iff] at hsuffix
  exact List.mem_of_mem_filter (hsuffix ▸ List.mem_singleton_self _)

end

section

variable (a : Annotator σ) (node label : String)

def Phase.isAnnouncement : Phase → Bool
  | .announcing | .told _ | .ended _ _ => true
  | _ => false

theorem turn_isAnnouncement (i : ι) (p : Phase) (s : Shared ι σ) :
    (turn a node label i p s).1.isAnnouncement = p.isAnnouncement := by
  rcases p with _ | (_ | _ | _) | _ | _ | _ | _
  case retracting => cases hswap : s.readiness.swap.1 <;> simp [turn, Phase.isAnnouncement, hswap]
  all_goals rfl

theorem turn_ends (i : ι) {p : Phase} (h : p.isAnnouncement = true) (s s' : Shared ι σ) :
    ∃ outcome answer,
      (turn a node label i (turn a node label i p s).1 s').1 = .ended outcome answer := by
  cases p with
  | announcing =>
    rcases hset : (a.set node label).outcome s.outside with ⟨_ | _ | _, outside⟩ <;> simp [turn, hset]
  | told outcome => rcases outcome with _ | _ | _ <;> exact ⟨_, _, rfl⟩
  | ended outcome answer => exact ⟨_, _, rfl⟩
  | retracting | swapped | retracted => cases h

def Phase.Answered : Phase → Prop
  | .ended outcome answer => answer = (info node label outcome, warnings node outcome)
  | _ => True

theorem turn_answered (i : ι) {p : Phase} (h : p.Answered node label) (s : Shared ι σ) :
    (turn a node label i p s).1.Answered node label := by
  cases p with
  | told outcome => rcases outcome with _ | _ | _ <;> rfl
  | ended outcome answer => exact h
  | retracting => cases hswap : s.readiness.swap.1 <;> simp [turn, Phase.Answered, hswap]
  | announcing | swapped | retracted => trivial

end

abbrev Calls (ι σ : Type) := Crowd ι Phase (Shared ι σ)

def Calls.start (announces : ι → Bool) (outside : σ) : Calls ι σ :=
  ⟨fun i ↦ if announces i then .announcing else .retracting, {}, outside, []⟩

/-- What others do, which neither is in the log nor changes what is remembered. -/
def Elsewhere (s s' : Shared ι σ) : Prop := s'.readiness = s.readiness ∧ s'.log = s.log

section

variable [DecidableEq ι] (a : Annotator σ) (node label : String)

abbrev Calls.Run : Calls ι σ → Calls ι σ → Prop := Crowd.Run (turn a node label) Elsewhere

structure Calls.Inv (announces : ι → Bool) (c : Calls ι σ) : Prop where
  kept : Kept c.shared
  traced : ∀ i, own i c.shared.log = trace i (c.phase i)
  announces : ∀ i, (c.phase i).isAnnouncement = announces i
  answered : ∀ i, (c.phase i).Answered node label

variable {a node label} {announces : ι → Bool} {c : Calls ι σ}

theorem Calls.Inv.start (outside : σ) : Inv node label announces (Calls.start announces outside) where
  kept := ⟨rfl, trivial⟩
  traced i := by cases h : announces i <;> simp [Calls.start, own, trace, h]
  announces i := by cases h : announces i <;> simp [Calls.start, Phase.isAnnouncement, h]
  answered i := by cases h : announces i <;> simp [Calls.start, Phase.Answered, h]

theorem Calls.Inv.advance (h : Inv node label announces c) (i : ι) :
    Inv node label announces (Crowd.advance (turn a node label) c i) where
  kept := h.kept.turn i (c.phase i)
  traced j := by
    rw [Crowd.advance]
    rcases @turn_log _ _ a node label i (c.phase i) c.shared with
      ⟨e, rfl, hlog, htrace⟩ | ⟨hlog, htrace⟩
    · by_cases hj : j = e.author
      · subst hj
        simp [hlog, htrace, own, ← h.traced]
      · simp [hlog, own, Ne.symm hj, hj, ← h.traced]
    · by_cases hj : j = i
      · subst hj
        simp [hlog, htrace, h.traced]
      · simp [hlog, hj, h.traced]
  announces := Crowd.forall_advance (P := fun i (p : Phase) ↦ p.isAnnouncement = announces i)
    ((turn_isAnnouncement ..).trans (h.announces i)) fun j _ ↦ h.announces j
  answered := Crowd.forall_advance (P := fun _ (p : Phase) ↦ p.Answered node label)
    (turn_answered _ _ _ _ (h.answered i) _) fun j _ ↦ h.answered j

theorem Calls.Inv.of_run {outside : σ}
    (hrun : Calls.Run a node label (Calls.start announces outside) c) :
    Inv node label announces c := by
  refine Crowd.Run.invariant ?_ ?_ hrun (Inv.start outside)
  · intro c i h
    exact h.advance i
  · rintro c s h ⟨hreadiness, hlog⟩
    exact ⟨⟨by rw [hreadiness, hlog, h.kept.labelled], hlog ▸ h.kept.swaps⟩,
      fun i ↦ hlog ▸ h.traced i, h.announces, h.answered⟩

theorem Calls.Inv.countP_isClear_le (h : Inv node label announces c) :
    c.shared.log.countP Event.isClear ≤ c.shared.log.countP Event.isSet :=
  calc c.shared.log.countP Event.isClear
    _ ≤ c.shared.log.countP Event.isSwap :=
      countP_le_of_own fun i ↦ by simpa only [h.traced] using trace_countP_isClear i _
    _ ≤ c.shared.log.countP Event.isStore :=
      Nat.le_of_add_right_le (countP_isSwap_le h.kept.swaps)
    _ ≤ c.shared.log.countP Event.isSet :=
      countP_le_of_own fun i ↦ by simpa only [h.traced] using trace_countP_isStore i _

theorem Calls.Inv.before_clear (h : Inv node label announces c) {i : ι}
    {outcome : Except PatchError Unit} {past : List (Event ι)}
    (hclear : .cleared i outcome :: past <:+ c.shared.log) :
    ∃ between since j before, past = between ++ .swapped i true :: (since ++ .stored j :: before) ∧
      (∀ e ∈ since, e.isSwap = false) ∧ .set j (.ok true) ∈ before := by
  have hpast := (List.suffix_cons _ past).trans hclear
  -- from the clearing back to the swap of the same call, and from there to the store and its setting
  obtain ⟨between, earlier, rfl⟩ := List.append_of_mem (swapped_of_cleared (h.traced i) hclear)
  have hswap := (List.suffix_append between _).trans hpast
  obtain ⟨harmed, -⟩ := h.kept.swaps.suffix hswap
  obtain ⟨since, j, before, rfl, hsince⟩ := exists_of_isArmed harmed.symm
  have hstore := (List.suffix_append since _).trans ((List.suffix_cons _ _).trans hswap)
  exact ⟨between, since, j, before, rfl, hsince, set_of_stored (h.traced j) hstore⟩

theorem Calls.Inv.set_mem_iff (h : Inv node label announces c) {i : ι}
    {outcome : Except PatchError Bool} {answer : NodeInfo × List Warning}
    (hended : c.phase i = .ended outcome answer) :
    .set i (.ok true) ∈ c.shared.log ↔ outcome = .ok true := by
  have hown := h.traced i
  rw [hended] at hown
  have hmem : .set i (.ok true) ∈ c.shared.log ↔ .set i (.ok true) ∈ own i c.shared.log := by
    simp [own, Event.author]
  rw [hmem, hown]
  rcases outcome with _ | _ | _ <;> simp [trace]

theorem Calls.Inv.label?_answer (h : Inv node label announces c) {i : ι}
    {outcome : Except PatchError Bool} {answer : NodeInfo × List Warning}
    (hended : c.phase i = .ended outcome answer) :
    (.set i (.ok true) ∈ c.shared.log → answer.1.label? label = some "true") ∧
      (.set i (.ok true) ∉ c.shared.log → answer.1.label? label = none) := by
  have hanswer := h.answered i
  rw [hended] at hanswer
  subst hanswer
  rw [h.set_mem_iff hended]
  constructor
  · rintro rfl
    exact label?_info node label
  · intro hne
    exact label?_info_of_ne hne node label

/-- The steps are the calls themselves, whatever comes between them: a question about the node, which is
always answered, or the end of the driver. However the steps of the calls fall, and whatever the orchestrator
does: labels are not taken away more often than they were set. Before each time the taker has found the
label in the memory, where it was stored later than it was last found, by one who had set it. A question
about the node is answered after two steps, and the answer has the label just if the one who was asked
has set it. -/
theorem clears_what_was_set {outside : σ}
    (hrun : Calls.Run a node label (Calls.start announces outside) c) :
    ((announce a node label : Action _ Failure _) = announceBy (disturbed a id) node label ∧
      ∀ others (i : ι) s, let done := turns a node label others i .announcing s
        ∃ answer, done.1 = .ended ((a.set node label).outcome s.outside).1 answer ∧
          (announceBy (disturbed a others) node label : Action _ Failure _).outcome
            (s.readiness, s.outside) = (.ok answer, done.2.readiness, done.2.outside)) ∧
    ((retract a node label : Action _ Failure _) = retractBy (disturbed a id) node label ∧
      ∀ others (i : ι) s, let done := turns a node label others i .retracting s
        ∃ outcome, done.1 = .retracted outcome ∧ outcome.isSome = s.readiness.labelled ∧
          (retractBy (disturbed a others) node label : Action _ Failure _).outcome
            (s.readiness, s.outside) = (.ok (), done.2.readiness, done.2.outside)) ∧
    c.shared.log.countP Event.isClear ≤ c.shared.log.countP Event.isSet ∧
    (∀ i outcome past, .cleared i outcome :: past <:+ c.shared.log →
      ∃ between since j before, past = between ++ .swapped i true :: (since ++ .stored j :: before) ∧
        (∀ e ∈ since, e.isSwap = false) ∧ .set j (.ok true) ∈ before) ∧
    (∀ i outcome answer, c.phase i = .ended outcome answer →
      (.set i (.ok true) ∈ c.shared.log → answer.1.label? label = some "true") ∧
      (.set i (.ok true) ∉ c.shared.log → answer.1.label? label = none)) ∧
    ∀ i, announces i = true → ∀ s s', ∃ outcome answer,
      (turn a node label i (turn a node label i (c.phase i) s).1 s').1 = .ended outcome answer := by
  have hinv := Calls.Inv.of_run hrun
  refine ⟨⟨announce_eq a node label, turns_announcing a node label⟩,
    ⟨retract_eq a node label, turns_retracting a node label⟩, hinv.countP_isClear_le,
    fun i outcome past ↦ hinv.before_clear, fun i outcome answer ↦ hinv.label?_answer, ?_⟩
  intro i hi s s'
  exact turn_ends a node label i ((hinv.announces i).trans hi) s s'

end

def stubborn : Annotator Unit where
  set _ _ := pure true
  clear node _ := throw ⟨node, "forbidden"⟩

/-- Two are asked about the node, and one of them has only set the label when another takes it away. That
this fails does not matter: there is one set label behind the attempt. -/
theorem clears_what_was_set_of_two :
    ∃ c : Calls (Fin 3) Unit,
      Calls.Run stubborn "n" "ready" (Calls.start (· ≠ 2) ()) c ∧
      c.shared.log.countP Event.isClear = 1 ∧ 1 ≤ c.shared.log.countP Event.isSet ∧
      (∃ outcome answer, c.phase 0 = .ended outcome answer ∧ answer.1.label? "ready" = some "true") := by
  let step := Crowd.advance (ι := Fin 3) (turn stubborn "n" "ready")
  have hrun : Calls.Run stubborn "n" "ready" (Calls.start (· ≠ 2) ())
      (step (step (step (step (step (Calls.start (· ≠ 2) ()) 0) 1) 0) 2) 2) :=
    ((((Relation.ReflTransGen.single (.own _ 0)).tail (.own _ 1)).tail (.own _ 0)).tail
      (.own _ 2)).tail (.own _ 2)
  obtain ⟨-, -, hcount, -, hanswer, -⟩ := clears_what_was_set hrun
  refine ⟨_, hrun, rfl, hcount, _, _, rfl, (hanswer 0 _ _ rfl).1 ?_⟩
  exact List.mem_of_getLast? rfl

end Labelling

end RealmDriver
