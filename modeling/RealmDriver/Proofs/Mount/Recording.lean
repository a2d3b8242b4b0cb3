import RealmDriver.Proofs.Machine
import RealmDriver.Proofs.Mount.Lookup

namespace RealmDriver.HostMounter

open MountCall (bind)

variable {ω : Type} (hm : HostMounter) (m : Machine ω)

def invocation (call : MountCall) : Invocation :=
  { program := hm.mountProgram, arguments := arguments call }

/-- A machine on which only the mount program mounts at a directory, namely if it succeeds at a path that
leads there, and whose table, if it can be read, has what is mounted there. -/
structure Keeps (target dir : Path) (mounted : ω → Prop) : Prop where
  run : ∀ i files o, i.program = hm.mountProgram → i.arguments.getLast? = some target →
    place target files = dir →
    (mounted (m.run i files o).2 ↔ mounted o ∨ Machine.Succeeded (m.run i files o).1)
  readTable : ∀ o, mounted (m.readTable o).2 ↔ mounted o
  listed : ∀ o bytes points, (m.readTable o).1 = .ok bytes → MountTable.read bytes = .ok points →
    (points.any (·.isAt dir) = true ↔ mounted o)

abbrev Recorded (ω : Type) := Host (List Machine.Started × ω)

variable {hm m} {target dir : Path} {mounted : ω → Prop}

section Reading

structure Untouched (mounted : ω → Prop) (h h' : Recorded ω) : Prop where
  files : h'.files = h.files
  started : h'.outside.1 = h.outside.1
  mounted : mounted h'.outside.2 ↔ mounted h.outside.2

theorem Untouched.trans {h h' h'' : Recorded ω} (hfirst : Untouched mounted h h')
    (hsecond : Untouched mounted h' h'') : Untouched mounted h h'' where
  files := hsecond.files.trans hfirst.files
  started := hsecond.started.trans hfirst.started
  mounted := hsecond.mounted.trans hfirst.mounted

def Lists (dir : Path) (mounted : ω → Prop) (h : Recorded ω) (bytes : List UInt8) : Prop :=
  ∀ points, MountTable.read bytes = .ok points →
    (points.any (·.isAt dir) = true ↔ mounted h.outside.2)

theorem Lists.of_untouched {h h' : Recorded ω} {bytes : List UInt8} (hsame : Untouched mounted h h')
    (hlists : Lists dir mounted h' bytes) : Lists dir mounted h bytes :=
  fun points hpoints ↦ (hlists points hpoints).trans hsame.mounted

def readBytes (m : Machine ω) : Action (Host ω) MountError (List UInt8) :=
  (Host.onOutside (Action.ofOutcome m.readTable)).rephrase .system

theorem list_outcome_eq (m : Machine ω) (h : Host ω) :
    (list m).outcome h = match (readSteadily (readBytes m) attempts).outcome h with
      | (.ok (some bytes), h') => ((MountTable.read bytes).mapError .invalidTable, h')
      | (.ok none, h') => (.error (.unsteadyTable attempts), h')
      | (.error e, h') => (.error e, h') := by
  rw [list, Action.outcome_bind, ← readBytes]
  rcases (readSteadily (readBytes m) attempts).outcome h with ⟨e | _ | bytes, h'⟩
  · rfl
  · rfl
  · rfl

theorem readBytes_outcome (hkeeps : Keeps hm m target dir mounted) (h : Recorded ω) :
    Untouched mounted h ((readBytes m.recording).outcome h).2 ∧
      ∀ bytes, ((readBytes m.recording).outcome h).1 = .ok bytes → Lists dir mounted h bytes := by
  refine ⟨⟨rfl, rfl, hkeeps.readTable _⟩, fun bytes hbytes points hpoints ↦ ?_⟩
  have hread : (m.readTable h.outside.2).1 = .ok bytes := Except.mapError_ok_iff.1 hbytes
  exact hkeeps.listed _ bytes points hread hpoints

theorem again_outcome (hkeeps : Keeps hm m target dir mounted) (attempts : Nat) (last : List UInt8)
    (h : Recorded ω) :
    let done := (readSteadily.again (readBytes m.recording) attempts last).outcome h
    Untouched mounted h done.2 ∧ ∀ bytes, done.1 = .ok (some bytes) → Lists dir mounted h bytes := by
  induction attempts generalizing last h with
  | zero => exact ⟨⟨rfl, rfl, Iff.rfl⟩, fun bytes hbytes ↦ by cases hbytes⟩
  | succ attempts ih =>
    obtain ⟨hsame, hlists⟩ := readBytes_outcome hkeeps h
    rw [readSteadily.again, Action.outcome_bind]
    rcases hread : (readBytes m.recording).outcome h with ⟨e | now, h'⟩
    · rw [hread] at hsame
      exact ⟨hsame, fun bytes hbytes ↦ by cases hbytes⟩
    · rw [hread] at hsame hlists
      by_cases hnow : now = last
      · simp only [hnow, if_true, Action.outcome_pure]
        refine ⟨hsame, fun bytes hbytes ↦ hlists bytes ?_⟩
        rw [hnow, Option.some.inj (Except.ok.inj hbytes)]
      · simp only [hnow, if_false]
        obtain ⟨hrest, hlater⟩ := ih now h'
        exact ⟨hsame.trans hrest, fun bytes hbytes ↦ (hlater bytes hbytes).of_untouched hsame⟩

theorem readSteadily_outcome (hkeeps : Keeps hm m target dir mounted) (h : Recorded ω) :
    let done := (readSteadily (readBytes m.recording) attempts).outcome h
    Untouched mounted h done.2 ∧ ∀ bytes, done.1 = .ok (some bytes) → Lists dir mounted h bytes := by
  obtain ⟨hsame, -⟩ := readBytes_outcome hkeeps h
  rw [readSteadily, Action.outcome_bind]
  rcases hread : (readBytes m.recording).outcome h with ⟨e | first, h'⟩
  · rw [hread] at hsame
    exact ⟨hsame, fun bytes hbytes ↦ by cases hbytes⟩
  · rw [hread] at hsame
    obtain ⟨hrest, hlater⟩ := again_outcome hkeeps attempts first h'
    exact ⟨hsame.trans hrest, fun bytes hbytes ↦ (hlater bytes hbytes).of_untouched hsame⟩

theorem list_recorded (hkeeps : Keeps hm m target dir mounted) (h : Recorded ω) :
    let done := (list m.recording).outcome h
    Untouched mounted h done.2 ∧
      ∀ points, done.1 = .ok points → (points.any (·.isAt dir) = true ↔ mounted h.outside.2) := by
  obtain ⟨hsame, hlists⟩ := readSteadily_outcome hkeeps h
  rw [list_outcome_eq]
  generalize (readSteadily (readBytes m.recording) attempts).outcome h = done at hsame hlists ⊢
  obtain ⟨e | _ | bytes, h'⟩ := done
  · exact ⟨hsame, fun points hpoints ↦ by cases hpoints⟩
  · exact ⟨hsame, fun points hpoints ↦ by cases hpoints⟩
  · exact ⟨hsame, fun points hpoints ↦ hlists bytes rfl points (Except.mapError_ok_iff.1 hpoints)⟩

end Reading

section Starting

variable (hm m)

def ran (call : MountCall) (h : Recorded ω) : Machine.Started :=
  (hm.invocation call, (m.run (hm.invocation call) h.files h.outside.2).1)

def started (call : MountCall) (h : Recorded ω) : Recorded ω :=
  { h with outside := (h.outside.1 ++ [hm.ran m call h],
      (m.run (hm.invocation call) h.files h.outside.2).2) }

theorem report_ok_iff (f : Finished) : report f = .ok () ↔ f.ending.isSuccess = true := by
  rw [report]
  split_ifs with hsuccess
  · exact iff_of_true rfl hsuccess
  · exact iff_of_false (fun h ↦ nomatch h) hsuccess

theorem runMount_recorded (call : MountCall) (h : Recorded ω) :
    let done := (hm.runMount m.recording call).outcome h
    ((∃ a ∈ arguments call, ¬Text.NulFree a) ∧ done.2 = h ∧ ∃ e, done.1 = .error e) ∨
      (∀ a ∈ arguments call, Text.NulFree a) ∧ done.2 = started hm m call h ∧
        (done.1 = .ok () ↔ Machine.Succeeded (ran hm m call h).2) := by
  rw [runMount, runProgram, Action.outcome_bind, Action.outcome_rephrase]
  rcases m.recording.start_outcome h (hm.invocation call) with ⟨hnul, hstart⟩ | ⟨hplain, hstart⟩
  · rw [invocation] at hstart
    rw [hstart]
    exact .inl ⟨hnul, rfl, _, rfl⟩
  · refine .inr ⟨hplain, ?_⟩
    rw [invocation] at hstart
    rw [hstart]
    rw [ran, started, ran, invocation]
    simp only [Machine.recording]
    cases hran : (m.run ⟨hm.mountProgram, arguments call, none⟩ h.files h.outside.2).1 with
    | error fault => exact ⟨rfl, ⟨fun hok ↦ (nomatch hok), fun ⟨_, hf, _⟩ ↦ nomatch hf⟩⟩
    | ok finished =>
      refine ⟨rfl, ?_⟩
      change ((report finished).mapError _ = .ok ()) ↔ _
      rw [Except.mapError_ok_iff, report_ok_iff]
      exact ⟨fun hsuccess ↦ ⟨finished, rfl, hsuccess⟩, fun ⟨f, hf, hsuccess⟩ ↦ by cases hf; exact hsuccess⟩

def bound (call : MountCall) : MountCall := { call with options := bindOptions call.options }

def remounted (call : MountCall) : MountCall := { call with options := remountOptions call.options }

theorem steps_recorded (call : MountCall) (hbind : bind ∈ call.options) (h : Recorded ω) :
    let done := ((steps call).forM (hm.runMount m.recording)).outcome h
    (done.2 = h ∧ ∃ e, done.1 = .error e) ∨
      (done.2 = started hm m (bound call) h ∧ ∃ e, done.1 = .error e) ∨
      Machine.Succeeded (ran hm m (bound call) h).2 ∧
        done.2 = started hm m (remounted call) (started hm m (bound call) h) ∧
        (done.1 = .ok () ↔ Machine.Succeeded (ran hm m (remounted call) (started hm m (bound call) h)).2) := by
  have hsteps : (steps call).forM (hm.runMount m.recording) = (do
      hm.runMount m.recording (bound call)
      hm.runMount m.recording (remounted call)) := by
    rw [steps, if_pos hbind]
    exact congrArg _ (funext fun _ ↦ bind_pure_unit)
  rw [hsteps, Action.outcome_bind]
  rcases runMount_recorded hm m (bound call) h with ⟨-, hsame, e, he⟩ | ⟨-, hstarted, hworks⟩
  · generalize (hm.runMount m.recording (bound call)).outcome h = done at hsame he ⊢
    obtain ⟨_, _⟩ := done
    cases he
    exact .inl ⟨hsame, e, rfl⟩
  · generalize (hm.runMount m.recording (bound call)).outcome h = done at hstarted hworks ⊢
    obtain ⟨e | _, h'⟩ := done
    · exact .inr (.inl ⟨hstarted, e, rfl⟩)
    · change h' = _ at hstarted
      subst hstarted
      rcases runMount_recorded hm m (remounted call) (started hm m (bound call) h) with
        ⟨-, hsame, he⟩ | ⟨-, hstarted, hremounted⟩
      · exact .inr (.inl ⟨hsame, he⟩)
      · exact .inr (.inr ⟨hworks.1 rfl, hstarted, hremounted⟩)

end Starting

end RealmDriver.HostMounter
