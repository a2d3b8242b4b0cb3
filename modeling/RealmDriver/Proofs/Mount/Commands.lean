import RealmDriver.Proofs.Mount.Binding
import RealmDriver.Proofs.Mount.Watching

namespace RealmDriver

namespace FileTree

variable {t : FileTree} {p : Path}

theorem nulFree_of_isDirectory (h : t.isDirectory p = true) : Text.NulFree p := by
  intro c hc hzero
  have hrefused : t.locate p = .error .nulInPath := by
    rw [locate, accept, if_pos (List.any_eq_true.2 ⟨c, hc, decide_eq_true hzero⟩)]
    rfl
  rw [isDirectory, hrefused] at h
  cases h

theorem nulFree_of_createAll {mode : Nat} (h : ((createAll mode p).outcome t).1 = .ok ()) :
    Text.NulFree p := by
  by_cases hp : p = ""
  · rw [hp]
    exact fun c hc ↦ nomatch hc
  · exact nulFree_of_isDirectory (createAll.isDirectory_of_go hp (Prod.ext h rfl))

end FileTree

theorem Text.nulFree_commaJoined (pieces : List String) :
    NulFree (",".intercalate pieces) ↔ ∀ s ∈ pieces, NulFree s := by
  have hcomma : ",".toList = [','] := rfl
  simp only [NulFree, String.toList_intercalate, hcomma]
  constructor
  · intro h s hs c hc
    exact h c (mem_intercalate hc (List.mem_map_of_mem hs))
  · intro h c hc
    rcases of_mem_intercalate hc with rfl | ⟨piece, hpiece, hc⟩
    · decide
    · obtain ⟨s, hs, rfl⟩ := List.mem_map.1 hpiece
      exact h s hs c hc

namespace HostMounter

open MountCall (bind)

variable {ω : Type} {hm : HostMounter} {m : Machine ω}

section Turns

/-- What is started of some mounts that are to be made in turn, and whether all of them succeeded. Each is
started after the one before it succeeded, unless one of its arguments cannot be handed to a program. -/
inductive InTurn (hm : HostMounter) : List MountCall → List Machine.Started → Bool → Prop
  | done : InTurn hm [] [] true
  | withheld {call : MountCall} {calls : List MountCall}
      (hnul : ∃ a ∈ arguments call, ¬Text.NulFree a) : InTurn hm (call :: calls) [] false
  | failed {call : MountCall} {calls : List MountCall} {r : Except SystemFault Finished}
      (hplain : ∀ a ∈ arguments call, Text.NulFree a) (hr : ¬Machine.Succeeded r) :
      InTurn hm (call :: calls) [(hm.invocation call, r)] false
  | next {call : MountCall} {calls : List MountCall} {r : Except SystemFault Finished}
      {started : List Machine.Started} {all : Bool} (hplain : ∀ a ∈ arguments call, Text.NulFree a)
      (hr : Machine.Succeeded r) (hrest : InTurn hm calls started all) :
      InTurn hm (call :: calls) ((hm.invocation call, r) :: started) all

variable (hm) in
theorem runMount_inTurn (calls : List MountCall) (h : Recorded ω) :
    let done := (calls.forM (hm.runMount m.recording)).outcome h
    ∃ started all, done.2.outside.1 = h.outside.1 ++ started ∧ InTurn hm calls started all ∧
      (done.1 = .ok () ↔ all = true) := by
  induction calls generalizing h with
  | nil => exact ⟨[], true, (List.append_nil _).symm, .done, iff_of_true rfl rfl⟩
  | cons call calls ih =>
    have hcons : (call :: calls).forM (hm.runMount m.recording) = (do
        hm.runMount m.recording call
        calls.forM (hm.runMount m.recording)) := rfl
    rw [hcons, Action.outcome_bind]
    rcases runMount_recorded hm m call h with ⟨hnul, hsame, e, he⟩ | ⟨hplain, hstarted, hworks⟩
    · generalize (hm.runMount m.recording call).outcome h = done at hsame he ⊢
      obtain ⟨_, _⟩ := done
      cases hsame
      cases he
      exact ⟨[], false, (List.append_nil _).symm, .withheld hnul,
        iff_of_false (fun hok ↦ nomatch hok) (by decide)⟩
    · generalize (hm.runMount m.recording call).outcome h = done at hstarted hworks ⊢
      obtain ⟨e | _, h'⟩ := done
      · cases hstarted
        have hfailed : ¬Machine.Succeeded (ran hm m call h).2 := fun hr ↦ nomatch hworks.2 hr
        exact ⟨[ran hm m call h], false, rfl, .failed hplain hfailed,
          iff_of_false (fun hok ↦ nomatch hok) (by decide)⟩
      · cases hstarted
        obtain ⟨started, all, hlog, hturn, hall⟩ := ih (HostMounter.started hm m call h)
        exact ⟨ran hm m call h :: started, all, hlog.trans (List.append_assoc _ [_] _),
          .next hplain (hworks.1 rfl) hturn, hall⟩

variable {calls : List MountCall} {started : List Machine.Started} {all : Bool}

theorem InTurn.exists_first {call : MountCall} (h : InTurn hm (call :: calls) started all)
    (hplain : ∀ a ∈ arguments call, Text.NulFree a) :
    ∃ r, ¬Machine.Succeeded r ∧ started = [(hm.invocation call, r)] ∨
      Machine.Succeeded r ∧ ∃ rest, InTurn hm calls rest all ∧
        started = (hm.invocation call, r) :: rest := by
  cases h with
  | withheld hnul =>
    obtain ⟨a, ha, hnul⟩ := hnul
    exact absurd (hplain a ha) hnul
  | failed _ hr => exact ⟨_, .inl ⟨hr, rfl⟩⟩
  | next _ hr hrest => exact ⟨_, .inr ⟨hr, _, hrest, rfl⟩⟩

theorem InTurn.eq_nil {call : MountCall} (h : InTurn hm (call :: calls) started all)
    (hnul : ∃ a ∈ arguments call, ¬Text.NulFree a) : started = [] := by
  obtain ⟨a, ha, hnul⟩ := hnul
  cases h with
  | withheld => rfl
  | failed hplain | next hplain => exact absurd (hplain a ha) hnul

theorem InTurn.eq_singleton {call : MountCall} (h : InTurn hm (call :: calls) started all)
    (hplain : ∀ a ∈ arguments call, Text.NulFree a)
    (hnul : ∀ next ∈ calls.head?, ∃ a ∈ arguments next, ¬Text.NulFree a) :
    ∃ r, started = [(hm.invocation call, r)] := by
  obtain ⟨r, ⟨-, rfl⟩ | ⟨-, rest, hrest, rfl⟩⟩ := h.exists_first hplain
  · exact ⟨r, rfl⟩
  · refine ⟨r, ?_⟩
    cases calls with
    | nil =>
      cases hrest
      rfl
    | cons next calls => rw [hrest.eq_nil (hnul next rfl)]

theorem InTurn.all_iff (h : InTurn hm calls started all)
    (hplain : ∀ call ∈ calls, ∀ a ∈ arguments call, Text.NulFree a) :
    all = true ↔ ∀ s ∈ started, Machine.Succeeded s.2 := by
  induction h with
  | done => exact iff_of_true rfl fun s hs ↦ nomatch hs
  | withheld hnul =>
    obtain ⟨a, ha, hnul⟩ := hnul
    exact absurd (hplain _ List.mem_cons_self a ha) hnul
  | failed _ hr =>
    exact iff_of_false (by decide) fun hall ↦ hr (hall _ List.mem_cons_self)
  | next _ hr _ ih =>
    rw [List.forall_mem_cons] at hplain ⊢
    rw [ih hplain.2, and_iff_right hr]

theorem InTurn.not_all (h : InTurn hm calls started all)
    (hnul : ∃ call ∈ calls, ∃ a ∈ arguments call, ¬Text.NulFree a) : all = false := by
  induction h with
  | done =>
    obtain ⟨call, hcall, -⟩ := hnul
    cases hcall
  | withheld => rfl
  | failed => rfl
  | next hplain _ _ ih =>
    obtain ⟨call, hcall, a, ha, hnul⟩ := hnul
    rcases List.mem_cons.1 hcall with rfl | hcall
    · exact absurd (hplain a ha) hnul
    · exact ih ⟨call, hcall, a, ha, hnul⟩

end Turns

section Options

variable {source target fsType : String} {options rest : List String}

/-- A start of the mount program with some options behind `-o`, comma-joined. Without any there is no `-o`. -/
def Carries (hm : HostMounter) (source target : Path) (fsType : String) (options : List String)
    (s : Machine.Started) : Prop :=
  s.1 = { program := hm.mountProgram,
          arguments := (if fsType = "" then [] else ["-t", fsType]) ++
            (if options = [] then [] else ["-o", ",".intercalate options]) ++ [source, target] }

/-- The options other than the one that makes a directory appear a second time, in their order and as often as
they are given. -/
def IsRest (options rest : List String) : Prop :=
  rest.Sublist options ∧ ∀ o, rest.count o = if o = bind then 0 else options.count o

/-- A mount in two commands: one that makes the directory appear and, if that one succeeds, one that tells
everything else. -/
def InTwo (hm : HostMounter) (source target : Path) (fsType : String) (options : List String)
    (started : List Machine.Started) : Prop :=
  ∃ first, Carries hm source target fsType
      (bind :: List.replicate (options.count networkDevice) networkDevice) first ∧
    (¬Machine.Succeeded first.2 ∧ started = [first] ∨
      Machine.Succeeded first.2 ∧ ∃ rest second, IsRest options rest ∧
        Carries hm source target fsType (bind :: "remount" :: rest) second ∧ started = [first, second])

theorem isRest_filter (options : List String) : IsRest options (options.filter (· ≠ bind)) := by
  refine ⟨List.filter_sublist, fun o ↦ ?_⟩
  split_ifs with ho
  · rw [ho, List.count_eq_zero]
    simp
  · exact List.count_filter (by simpa using ho)

theorem carries_invocation (call : MountCall) (r : Except SystemFault Finished) :
    Carries hm call.source call.target call.fsType call.options (hm.invocation call, r) := by
  rw [Carries, invocation, arguments]
  simp only [List.isEmpty_iff]

theorem bindOptions_eq (options : List String) :
    bindOptions options = bind :: List.replicate (options.count networkDevice) networkDevice := by
  rw [bindOptions, List.filter_eq]

theorem carries_bound (r : Except SystemFault Finished) : Carries hm source target fsType
    (bind :: List.replicate (options.count networkDevice) networkDevice)
    (hm.invocation ⟨source, target, fsType, bindOptions options⟩, r) := by
  rw [← bindOptions_eq]
  exact carries_invocation ⟨source, target, fsType, bindOptions options⟩ r

theorem bindOptions_binding :
    bindOptions (MountCall.binding source target options).options = bindOptions options := by
  rw [MountCall.binding]
  split_ifs
  · rfl
  · rw [bindOptions, List.filter_cons_of_neg (by decide), bindOptions]

theorem remountOptions_binding :
    remountOptions (MountCall.binding source target options).options = remountOptions options := by
  rw [MountCall.binding]
  split_ifs
  · rfl
  · rw [remountOptions, List.filter_cons_of_neg (by simp), remountOptions]

structure Plain (source fsType : String) (options : List String) : Prop where
  source : Text.NulFree source
  fsType : Text.NulFree fsType
  options : ∀ o ∈ options, Text.NulFree o

theorem plain_iff_arguments (htarget : Text.NulFree target) :
    Plain source fsType options ↔ ∀ a ∈ arguments ⟨source, target, fsType, options⟩, Text.NulFree a := by
  have hoptions : (∀ a ∈ if options.isEmpty then [] else ["-o", ",".intercalate options], Text.NulFree a) ↔
      ∀ o ∈ options, Text.NulFree o := by
    rw [← Text.nulFree_commaJoined options]
    cases options with
    | nil => exact iff_of_true (fun a ha ↦ nomatch ha) (fun c hc ↦ nomatch hc)
    | cons o os =>
      rw [if_neg (by simp)]
      exact ⟨fun h ↦ h _ (by simp), fun h ↦ List.forall_mem_cons.2 ⟨by decide, List.forall_mem_singleton.2 h⟩⟩
  have hfsType : (∀ a ∈ if fsType = "" then [] else ["-t", fsType], Text.NulFree a) ↔
      Text.NulFree fsType := by
    split_ifs with hempty
    · rw [hempty]
      exact iff_of_true (fun a ha ↦ nomatch ha) (fun c hc ↦ nomatch hc)
    · exact ⟨fun h ↦ h _ (by simp), fun h ↦ List.forall_mem_cons.2 ⟨by decide, List.forall_mem_singleton.2 h⟩⟩
  simp only [arguments, List.forall_mem_append, hoptions, hfsType, List.forall_mem_cons, List.not_mem_nil]
  constructor
  · rintro ⟨hsource, htype, hopts⟩
    exact ⟨⟨htype, hopts⟩, hsource, htarget, fun _ h ↦ h.elim⟩
  · rintro ⟨⟨htype, hopts⟩, hsource, -, -⟩
    exact ⟨hsource, htype, hopts⟩

theorem plain_bound : Plain source fsType (bindOptions options) ↔
    Text.NulFree source ∧ Text.NulFree fsType := by
  constructor
  · exact fun h ↦ ⟨h.source, h.fsType⟩
  · rintro ⟨hsource, htype⟩
    refine ⟨hsource, htype, List.forall_mem_cons.2 ⟨by decide, fun o ho ↦ ?_⟩⟩
    rw [of_decide_eq_true (List.mem_filter.1 ho).2]
    decide

theorem plain_remounted : Plain source fsType (remountOptions options) ↔ Plain source fsType options := by
  constructor
  · rintro ⟨hsource, htype, hrest⟩
    refine ⟨hsource, htype, fun o ho ↦ ?_⟩
    by_cases hbind : o = bind
    · rw [hbind]
      decide
    · exact hrest o (List.mem_cons_of_mem _ (List.mem_cons_of_mem _
        (List.mem_filter.2 ⟨ho, decide_eq_true hbind⟩)))
  · rintro ⟨hsource, htype, hoptions⟩
    refine ⟨hsource, htype, List.forall_mem_cons.2 ⟨by decide, List.forall_mem_cons.2 ⟨by decide, ?_⟩⟩⟩
    exact fun o ho ↦ hoptions o (List.mem_filter.1 ho).1

end Options

section Mounting

theorem list_started (h : Recorded ω) : ((list m.recording).outcome h).2.outside.1 = h.outside.1 := by
  have hread : (Host.onOutside (Action.ofOutcome m.recording.readTable)).Within
      (Keeping fun h' : Recorded ω ↦ h'.outside.1 = h.outside.1) := fun _ hlog ↦ hlog
  exact list_within_of m.recording hread h rfl

variable (hm) in
theorem mount_inTurn (call : MountCall) (h : Recorded ω) {there : Bool}
    (hmade : ((FileTree.createAll targetMode call.target).outcome h.files).1 = .ok ())
    (hlook : ((isMountPoint m.recording call.target).outcome
      { h with files := making call.target h.files }).1 = .ok there) :
    let done := (hm.mount m.recording call).outcome h
    ∃ started, done.2.outside.1 = h.outside.1 ++ started ∧ (there = true → started = [] ∧ done.1 = .ok ()) ∧
      (there = false → ∃ all, InTurn hm (steps call) started all ∧ (done.1 = .ok () ↔ all = true)) := by
  have hlog := list_started (m := m) { h with files := making call.target h.files }
  rw [mount_outcome]
  rw [isMountPoint_eq, making] at hlook
  rw [making] at hlog
  generalize (FileTree.createAll targetMode call.target).outcome h.files = made at hmade hlook hlog ⊢
  obtain ⟨_, files⟩ := made
  cases hmade
  simp only at hlook hlog ⊢
  generalize (list m.recording).outcome { h with files } = read at hlook hlog ⊢
  obtain ⟨e | points, h'⟩ := read
  · cases hlook
  · obtain rfl := Except.ok.inj hlook
    simp only at hlog ⊢
    split_ifs with hany
    · exact ⟨[], hlog.trans (List.append_nil _).symm, fun _ ↦ ⟨rfl, rfl⟩,
        fun hfree ↦ absurd hany (Bool.eq_false_iff.1 hfree)⟩
    · obtain ⟨started, all, hstarted, hturn, hall⟩ := runMount_inTurn hm (m := m) (steps call) h'
      rw [hlog] at hstarted
      exact ⟨started, hstarted, fun hthere ↦ absurd hthere hany, fun _ ↦ ⟨all, hturn, hall⟩⟩

/-- What the mount program is told where nothing is mounted yet, in one command or, for a directory that is to
appear a second time, in two. -/
structure Tells (hm : HostMounter) (source target : Path) (fsType : String) (options : List String)
    (twice : Prop) (answer : Except MountError Unit) (started : List Machine.Started) : Prop where
  atOnce : Plain source fsType options → ¬twice →
    ∃ s, Carries hm source target fsType options s ∧ started = [s]
  inTwo : Plain source fsType options → twice → InTwo hm source target fsType options started
  ok_iff : Plain source fsType options → (answer = .ok () ↔ ∀ s ∈ started, Machine.Succeeded s.2)
  /-- What cannot be handed to a program is not told. -/
  refused : ¬Plain source fsType options → ∃ e, answer = .error e
  first : ¬Plain source fsType options → twice → Text.NulFree source → Text.NulFree fsType →
    ∃ s, Carries hm source target fsType
      (bind :: List.replicate (options.count networkDevice) networkDevice) s ∧ started = [s]
  nothing : ¬Plain source fsType options → ¬(twice ∧ Text.NulFree source ∧ Text.NulFree fsType) →
    started = []

variable {source target : Path} {fsType : String} {options : List String} {twice : Prop}
  {answer : Except MountError Unit} {started : List Machine.Started} {all : Bool}

theorem exists_error (h : answer ≠ .ok ()) : ∃ e, answer = .error e := by
  cases answer with
  | error e => exact ⟨e, rfl⟩
  | ok => exact absurd rfl h

theorem exists_nul (htarget : Text.NulFree target) (h : ¬Plain source fsType options) :
    ∃ a ∈ arguments ⟨source, target, fsType, options⟩, ¬Text.NulFree a := by
  rw [plain_iff_arguments htarget] at h
  push Not at h
  exact h

theorem tells_of_one (htarget : Text.NulFree target) (htwice : ¬twice)
    (hturn : InTurn hm [⟨source, target, fsType, options⟩] started all)
    (hanswer : answer = .ok () ↔ all = true) :
    Tells hm source target fsType options twice answer started where
  atOnce hplain _ := by
    obtain ⟨r, rfl⟩ := hturn.eq_singleton ((plain_iff_arguments htarget).1 hplain)
      fun _ h ↦ nomatch h
    exact ⟨_, carries_invocation _ r, rfl⟩
  inTwo _ h := absurd h htwice
  ok_iff hplain := by
    rw [hanswer, hturn.all_iff (List.forall_mem_singleton.2 ((plain_iff_arguments htarget).1 hplain))]
  refused hplain := by
    refine exists_error fun hok ↦ ?_
    rw [hanswer, hturn.not_all ⟨_, List.mem_cons_self, exists_nul htarget hplain⟩] at hok
    cases hok
  first _ h := absurd h htwice
  nothing hplain _ := hturn.eq_nil (exists_nul htarget hplain)

theorem tells_of_two (htarget : Text.NulFree target) (htwice : twice)
    (hturn : InTurn hm [⟨source, target, fsType, bindOptions options⟩,
      ⟨source, target, fsType, remountOptions options⟩] started all)
    (hanswer : answer = .ok () ↔ all = true) :
    Tells hm source target fsType options twice answer started where
  atOnce _ h := absurd htwice h
  inTwo hplain _ := by
    obtain ⟨r, hr⟩ := hturn.exists_first
      ((plain_iff_arguments htarget).1 (plain_bound.2 ⟨hplain.source, hplain.fsType⟩))
    refine ⟨(_, r), carries_bound r, ?_⟩
    rcases hr with hfailed | ⟨hr, rest, hrest, rfl⟩
    · exact .inl hfailed
    · obtain ⟨r', rfl⟩ := hrest.eq_singleton
        ((plain_iff_arguments htarget).1 (plain_remounted.2 hplain)) fun _ h ↦ nomatch h
      exact .inr ⟨hr, _, _, isRest_filter options, carries_invocation _ r', rfl⟩
  ok_iff hplain := by
    refine hanswer.trans (hturn.all_iff (List.forall_mem_cons.2 ⟨?_, List.forall_mem_singleton.2 ?_⟩))
    · exact (plain_iff_arguments htarget).1 (plain_bound.2 ⟨hplain.source, hplain.fsType⟩)
    · exact (plain_iff_arguments htarget).1 (plain_remounted.2 hplain)
  refused hplain := by
    refine exists_error fun hok ↦ ?_
    rw [hanswer, hturn.not_all ⟨_, List.mem_cons_of_mem _ List.mem_cons_self,
      exists_nul htarget (plain_remounted.not.2 hplain)⟩] at hok
    cases hok
  first hplain _ hsource htype := by
    obtain ⟨r, rfl⟩ := hturn.eq_singleton
      ((plain_iff_arguments htarget).1 (plain_bound.2 ⟨hsource, htype⟩))
      fun _ h ↦ Option.some.inj h ▸ exists_nul htarget (plain_remounted.not.2 hplain)
    exact ⟨(_, r), carries_bound r, rfl⟩
  nothing _ h := hturn.eq_nil (exists_nul htarget (plain_bound.not.2 fun hfree ↦ h ⟨htwice, hfree⟩))

variable (hm) in
/-- **Mounting loses no option.** Where nothing is mounted yet, the mount program is told all of them at once,
or, to make a directory appear a second time, first the ones that matter to programs and then, if that
succeeded, all the others. It is answered with success just if all that was started succeeded. What cannot be
handed to a program is not started, and the mount fails. -/
theorem perform_carries_options (attempt : Attempt) (source target : Path) (options : List String)
    (h : Recorded ω) {there : Bool}
    (hmade : ((FileTree.createAll targetMode target).outcome h.files).1 = .ok ())
    (hlook : ((isMountPoint m.recording target).outcome
      { h with files := making target h.files }).1 = .ok there) :
    let done := (attempt.perform hm m.recording source target options).outcome h
    ∃ started, done.2.outside.1 = h.outside.1 ++ started ∧
      (there = true → started = [] ∧ done.1 = .ok ()) ∧
      (there = false →
        Tells hm source target attempt.fsType options (attempt.Binding options) done.1 started) := by
  have htarget := FileTree.nulFree_of_createAll hmade
  by_cases hbinding : attempt.Binding options
  · have hperform := perform_eq hm m.recording source target options hbinding
    rw [hperform]
    obtain ⟨started, hlog, hthere, hturn⟩ := mount_inTurn hm
      { MountCall.binding source target options with fsType := attempt.fsType } h hmade hlook
    refine ⟨started, hlog, hthere, fun hfree ↦ ?_⟩
    obtain ⟨all, hturn, hall⟩ := hturn hfree
    rw [steps, if_pos (bind_mem_binding source target options), bindOptions_binding,
      remountOptions_binding] at hturn
    exact tells_of_two htarget hbinding hturn hall
  · cases attempt with
    | bindMount => exact absurd (.inl rfl) hbinding
    | mount fsType =>
      obtain ⟨started, hlog, hthere, hturn⟩ := mount_inTurn hm
        ⟨source, target, fsType, options⟩ h hmade hlook
      refine ⟨started, hlog, hthere, fun hfree ↦ ?_⟩
      obtain ⟨all, hturn, hall⟩ := hturn hfree
      rw [steps, if_neg fun h ↦ hbinding (.inr h)] at hturn
      exact tells_of_one htarget hbinding hturn hall

theorem perform_carries_options_of_bind :
    let hm : HostMounter := ⟨"/bin/mount", "/bin/umount"⟩
    let options := ["ro", "bind", "_netdev", "ro"]
    let h : Recorded (Bool × List Nat) := ⟨{}, [], (false, [0, 32])⟩
    let done := ((Attempt.mount "").perform hm scripted.recording "/src" "/data" options).outcome h
    ((FileTree.createAll targetMode "/data").outcome h.files).1 = .ok () ∧
      ((isMountPoint scripted.recording "/data").outcome
        { h with files := making "/data" h.files }).1 = .ok false ∧
      ∃ started, done.2.outside.1 = started ∧
        Tells hm "/src" "/data" "" options ((Attempt.mount "").Binding options) done.1 started := by
  intro hm options h done
  have hmade : ((FileTree.createAll targetMode "/data").outcome h.files).1 = .ok () := by decide +kernel
  have hlook : ((isMountPoint scripted.recording "/data").outcome
      { h with files := making "/data" h.files }).1 = .ok false := by decide +kernel
  obtain ⟨started, hlog, -, htells⟩ :=
    perform_carries_options hm (.mount "") "/src" "/data" options h hmade hlook
  exact ⟨hmade, hlook, started, hlog, htells rfl⟩

/-- An option with a NUL in it is not told, and neither is anything else. -/
theorem perform_withholds_nul :
    let hm : HostMounter := ⟨"/bin/mount", "/bin/umount"⟩
    let h : Recorded (Bool × List Nat) := ⟨{}, [], (false, [])⟩
    let done := ((Attempt.mount "panfs").perform hm scripted.recording "src" "/data" ["a\x00b"]).outcome h
    ((FileTree.createAll targetMode "/data").outcome h.files).1 = .ok () ∧
      ((isMountPoint scripted.recording "/data").outcome
        { h with files := making "/data" h.files }).1 = .ok false ∧
      bind ∉ ["a\x00b"] ∧ done.1 = .error (.system .nulInArgument) ∧
      ¬∃ s, Carries hm "src" "/data" "panfs" ["a\x00b"] s ∧ done.2.outside.1 = [s] := by
  intro hm h done
  have hnone : done.2.outside.1 = [] := by decide +kernel
  refine ⟨by decide +kernel, by decide +kernel, by decide, by decide +kernel, ?_⟩
  rintro ⟨s, -, hs⟩
  rw [hnone] at hs
  cases hs

end Mounting

end HostMounter

end RealmDriver
