import RealmDriver.Proofs.Files.Making
import RealmDriver.Proofs.Mount.Recording

namespace RealmDriver.HostMounter

open MountCall (bind)

variable {ω : Type} {hm : HostMounter} {m : Machine ω} {target dir : Path} {mounted : ω → Prop}

def making (target : Path) (t : FileTree) : FileTree :=
  ((FileTree.createAll targetMode target).outcome t).2

section Trying

variable (hm) (dir) (mounted) (call : MountCall)

def Binds (s : Machine.Started) : Prop :=
  ∃ fsType, s.1 = hm.invocation (bound { call with fsType })

def Remounts (s : Machine.Started) : Prop :=
  ∃ fsType, s.1 = hm.invocation (remounted { call with fsType })

def Waiting (log : List Machine.Started) : Prop :=
  ∀ s ∈ log, Binds hm call s ∧ ¬Machine.Succeeded s.2

def Half (log : List Machine.Started) : Prop :=
  ∃ failed made rest, log = failed ++ made :: rest ∧ Waiting hm call failed ∧
    (Binds hm call made ∧ Machine.Succeeded made.2) ∧
    ∀ s ∈ rest, Remounts hm call s ∧ ¬Machine.Succeeded s.2

def Applied (log : List Machine.Started) : Prop :=
  ∃ failed made set, log = failed ++ [made, set] ∧ Waiting hm call failed ∧
    (Binds hm call made ∧ Machine.Succeeded made.2) ∧ Remounts hm call set ∧ Machine.Succeeded set.2

structure Made (h : Recorded ω) : Prop where
  made : (FileTree.createAll targetMode call.target).outcome h.files = (.ok (), h.files)
  place : place call.target h.files = dir
  mounted : mounted h.outside.2 ↔ ∃ s ∈ h.outside.1, Machine.Succeeded s.2
  stage : Waiting hm call h.outside.1 ∨ Half hm call h.outside.1 ∨ Applied hm call h.outside.1

variable {hm dir mounted call}

theorem mount_outcome (h : Host ω) :
    (hm.mount m call).outcome h =
      match (FileTree.createAll targetMode call.target).outcome h.files with
      | (.error fault, files) => (.error (.system fault), { h with files })
      | (.ok (), files) =>
        match (list m).outcome { h with files } with
        | (.error e, h') => (.error e, h')
        | (.ok points, h') =>
          if points.any (·.isAt (place call.target files)) then (.ok (), h')
          else ((steps call).forM (hm.runMount m)).outcome h' := by
  simp only [mount, Host.onFiles, Action.outcome_bind, Action.outcome_rephrase, Action.outcome_on,
    isMountPoint_eq]
  rcases (FileTree.createAll targetMode call.target).outcome h.files with ⟨fault | _, files⟩
  · rfl
  · simp only [Except.mapError]
    rcases (list m).outcome { h with files } with ⟨e | points, h'⟩
    · rfl
    · simp only [Except.map]
      split
      · rfl
      · rfl

theorem invocation_last (call : MountCall) :
    (hm.invocation call).arguments.getLast? = some call.target := by
  simp [invocation, arguments, List.getLast?_append]

theorem mounted_started (call : MountCall) (hkeeps : Keeps hm m call.target dir mounted) (h : Recorded ω)
    (hplace : place call.target h.files = dir)
    (hmounted : mounted h.outside.2 ↔ ∃ s ∈ h.outside.1, Machine.Succeeded s.2) :
    let h' := started hm m call h
    mounted h'.outside.2 ↔ ∃ s ∈ h'.outside.1, Machine.Succeeded s.2 := by
  simp only [started, List.mem_append, List.mem_singleton, or_and_right, exists_or, exists_eq_left]
  rw [hkeeps.run _ _ _ rfl (invocation_last call) hplace, hmounted]
  exact Iff.rfl

theorem Made.of_untouched {h h' : Recorded ω} (hsame : Untouched mounted h h')
    (hmade : Made hm dir mounted call h) : Made hm dir mounted call h' where
  made := by
    rw [hsame.files]
    exact hmade.made
  place := by
    rw [hsame.files]
    exact hmade.place
  mounted := by
    rw [hsame.mounted, hsame.started]
    exact hmade.mounted
  stage := by
    rw [hsame.started]
    exact hmade.stage

theorem Waiting.append {log : List Machine.Started} {s : Machine.Started} (hwaiting : Waiting hm call log)
    (hs : Binds hm call s) (hfailed : ¬Machine.Succeeded s.2) : Waiting hm call (log ++ [s]) := by
  intro one hone
  rcases List.mem_append.1 hone with hone | hone
  · exact hwaiting one hone
  · rw [List.mem_singleton.1 hone]
    exact ⟨hs, hfailed⟩

theorem Waiting.not_applied {log : List Machine.Started} (hwaiting : Waiting hm call log) :
    ¬Applied hm call log := by
  rintro ⟨failed, made, set, rfl, -, -, -, hset⟩
  exact (hwaiting set (by simp)).2 hset

theorem Waiting.not_applied_one {log : List Machine.Started} {s : Machine.Started}
    (hwaiting : Waiting hm call log) : ¬Applied hm call (log ++ [s]) := by
  rintro ⟨failed, made, set, hlog, -, ⟨-, hmade⟩, -⟩
  have hfront : log = failed ++ [made] := by
    have htwo : failed ++ [made, set] = (failed ++ [made]) ++ [set] := by simp
    exact (List.append_inj' (hlog.trans htwo) rfl).1
  exact (hwaiting made (by simp [hfront])).2 hmade

theorem applied_two {log : List Machine.Started} {made set : Machine.Started}
    (h : Applied hm call (log ++ [made, set])) : Machine.Succeeded set.2 := by
  obtain ⟨failed, made', set', hlog, -, -, -, hset⟩ := h
  have hback : [made, set] = [made', set'] := (List.append_inj' hlog rfl).2
  cases hback
  exact hset

theorem exists_succeeded {log : List Machine.Started} (h : Half hm call log ∨ Applied hm call log) :
    ∃ s ∈ log, Machine.Succeeded s.2 := by
  rcases h with ⟨failed, made, rest, rfl, -, ⟨-, hmade⟩, -⟩ | ⟨failed, made, set, rfl, -, ⟨-, hmade⟩, -⟩
  · exact ⟨made, by simp, hmade⟩
  · exact ⟨made, by simp, hmade⟩

theorem Made.steps (hkeeps : Keeps hm m call.target dir mounted) (hbind : bind ∈ call.options)
    {h : Recorded ω} (hmade : Made hm dir mounted call h)
    (hwaiting : Waiting hm call h.outside.1) (fsType : String) :
    let done := ((steps { call with fsType }).forM (hm.runMount m.recording)).outcome h
    Made hm dir mounted call done.2 ∧ (done.1 = .ok () ↔ Applied hm call done.2.outside.1) := by
  intro done
  let once : MountCall := { call with fsType }
  have hbinds (h : Recorded ω) : Binds hm call (ran hm m (bound once) h) := ⟨fsType, rfl⟩
  have hremounts (h : Recorded ω) : Remounts hm call (ran hm m (remounted once) h) := ⟨fsType, rfl⟩
  have hfirst := mounted_started (bound once) hkeeps h hmade.place hmade.mounted
  rcases steps_recorded hm m once hbind h with
    ⟨hsame, e, he⟩ | ⟨hstarted, e, he⟩ | ⟨hworks, hstarted, hok⟩
  -- nothing was started
  · refine ⟨?_, iff_of_false (fun hok ↦ nomatch he.symm.trans hok) ?_⟩
    · rw [hsame]
      exact hmade
    · rw [hsame]
      exact hwaiting.not_applied
  -- the mount program was started once, and not again
  · refine ⟨?_, iff_of_false (fun hok ↦ nomatch he.symm.trans hok) ?_⟩
    · rw [hstarted]
      refine ⟨hmade.made, hmade.place, hfirst, ?_⟩
      by_cases hworks : Machine.Succeeded (ran hm m (bound once) h).2
      · exact .inr (.inl ⟨_, _, [], rfl, hwaiting, ⟨hbinds _, hworks⟩, fun s hs ↦ nomatch hs⟩)
      · exact .inl (hwaiting.append (hbinds _) hworks)
    · rw [hstarted]
      exact hwaiting.not_applied_one
  -- it was started twice
  · have hsecond := mounted_started (remounted once) hkeeps (started hm m (bound once) h) hmade.place hfirst
    have hlog : done.2.outside.1 =
        h.outside.1 ++ [ran hm m (bound once) h, ran hm m (remounted once) (started hm m (bound once) h)] := by
      rw [hstarted]
      exact List.append_assoc _ [_] [_]
    refine ⟨?_, ?_⟩
    · rw [hstarted] at hlog ⊢
      refine ⟨hmade.made, hmade.place, hsecond, .inr ?_⟩
      rw [hlog]
      by_cases hset : Machine.Succeeded (ran hm m (remounted once) (started hm m (bound once) h)).2
      · exact .inr ⟨_, _, _, rfl, hwaiting, ⟨hbinds _, hworks⟩, hremounts _, hset⟩
      · exact .inl ⟨_, _, [_], rfl, hwaiting, ⟨hbinds _, hworks⟩,
          List.forall_mem_singleton.2 ⟨hremounts _, hset⟩⟩
    · rw [hok, hlog]
      exact ⟨fun hset ↦ ⟨_, _, _, rfl, hwaiting, ⟨hbinds _, hworks⟩, hremounts _, hset⟩, applied_two⟩

theorem Made.mount (hkeeps : Keeps hm m call.target dir mounted) (hbind : bind ∈ call.options)
    {h : Recorded ω} (hmade : Made hm dir mounted call h)
    (fsType : String) :
    let done := (hm.mount m.recording { call with fsType }).outcome h
    Made hm dir mounted call done.2 ∧
      (Waiting hm call h.outside.1 → (done.1 = .ok () ↔ Applied hm call done.2.outside.1)) ∧
      (Half hm call h.outside.1 ∨ Applied hm call h.outside.1 → done.2.outside.1 = h.outside.1 ∧
        (done.1 = .ok () ↔ ∃ points, ((list m.recording).outcome h).1 = .ok points)) := by
  obtain ⟨hsame, hlisted⟩ := list_recorded hkeeps h
  rw [mount_outcome, hmade.made]
  simp only
  generalize (list m.recording).outcome h = read at hsame hlisted ⊢
  obtain ⟨e | points, h'⟩ := read
  · refine ⟨hmade.of_untouched hsame, fun hwaiting ↦ iff_of_false (fun hok ↦ nomatch hok) ?_,
      fun _ ↦ ⟨hsame.started, iff_of_false (fun hok ↦ nomatch hok) (fun ⟨_, hok⟩ ↦ nomatch hok)⟩⟩
    rw [hsame.started]
    exact hwaiting.not_applied
  · have hseen := (hlisted points rfl).trans hmade.mounted
    simp only [hmade.place]
    by_cases hany : (points.any (·.isAt dir)) = true
    · obtain ⟨s, hs, hsucceeded⟩ := hseen.1 hany
      simp only [if_pos hany]
      exact ⟨hmade.of_untouched hsame, fun hwaiting ↦ absurd hsucceeded (hwaiting s hs).2,
        fun _ ↦ ⟨hsame.started, iff_of_true trivial ⟨points, rfl⟩⟩⟩
    · simp only [if_neg hany]
      have hnone : ¬∃ s ∈ h.outside.1, Machine.Succeeded s.2 := fun h ↦ hany (hseen.2 h)
      have hwaiting : Waiting hm call h.outside.1 :=
        hmade.stage.resolve_right fun h ↦ hnone (exists_succeeded h)
      have hmade' := hmade.of_untouched hsame
      obtain ⟨hdone, hok⟩ := hmade'.steps hkeeps hbind
        (hsame.started ▸ hwaiting) fsType
      exact ⟨hdone, fun _ ↦ hok, fun h ↦ absurd (exists_succeeded h) hnone⟩

structure Fresh (mounted : ω → Prop) (call : MountCall) (h₀ : Host ω) (h : Recorded ω) : Prop where
  files : ∃ n, h.files = (making call.target)^[n] h₀.files
  started : h.outside.1 = []
  mounted : mounted h.outside.2 ↔ mounted h₀.outside

/-- A path leads to a directory whenever that directory could be made. -/
def LeadsTo (target dir : Path) (t : FileTree) : Prop :=
  ∀ n t', (FileTree.createAll targetMode target).outcome ((making target)^[n] t) = (.ok (), t') →
    place target t' = dir

def Standing (hm : HostMounter) (dir : Path) (mounted : ω → Prop) (call : MountCall) (h₀ : Host ω)
    (h : Recorded ω) : Prop :=
  Fresh mounted call h₀ h ∨ Made hm dir mounted call h

theorem waiting_nil : Waiting hm call [] := fun _ hs ↦ nomatch hs

theorem Standing.stage {h₀ : Host ω} {h : Recorded ω} (hstanding : Standing hm dir mounted call h₀ h) :
    Waiting hm call h.outside.1 ∨ Half hm call h.outside.1 ∨ Applied hm call h.outside.1 := by
  rcases hstanding with hfresh | hmade
  · rw [hfresh.started]
    exact .inl waiting_nil
  · exact hmade.stage

theorem Fresh.mount {h₀ : Host ω} (hkeeps : Keeps hm m call.target dir mounted)
    (hbind : bind ∈ call.options) (hleads : LeadsTo call.target dir h₀.files)
    (hstart : ¬mounted h₀.outside) {h : Recorded ω} (hfresh : Fresh mounted call h₀ h)
    (fsType : String) :
    let done := (hm.mount m.recording { call with fsType }).outcome h
    Standing hm dir mounted call h₀ done.2 ∧ (done.1 = .ok () ↔ Applied hm call done.2.outside.1) := by
  obtain ⟨n, hn⟩ := hfresh.files
  rcases hmake : (FileTree.createAll targetMode call.target).outcome h.files with ⟨fault | _, files⟩
  · rw [mount_outcome, hmake]
    refine ⟨.inl ⟨⟨n + 1, ?_⟩, hfresh.started, hfresh.mounted⟩, iff_of_false (fun hok ↦ nomatch hok) ?_⟩
    · rw [Function.iterate_succ_apply', ← hn, making, hmake]
    · change ¬Applied hm call h.outside.1
      rw [hfresh.started]
      exact waiting_nil.not_applied
  · have hagain := FileTree.createAll_again hmake
    have hsame : (hm.mount m.recording { call with fsType }).outcome h =
        (hm.mount m.recording { call with fsType }).outcome { h with files } := by
      rw [mount_outcome, mount_outcome, hmake, hagain]
    have hwaiting : Waiting hm call h.outside.1 := hfresh.started ▸ waiting_nil
    have hmade : Made hm dir mounted call { h with files } := by
      refine ⟨hagain, hleads n files (hn ▸ hmake), ?_, .inl hwaiting⟩
      rw [hfresh.mounted, hfresh.started]
      exact iff_of_false hstart fun ⟨_, hs, _⟩ ↦ nomatch hs
    obtain ⟨hdone, hok, -⟩ := hmade.mount hkeeps hbind fsType
    rw [hsame]
    exact ⟨.inr hdone, hok hwaiting⟩

theorem Standing.mount {h₀ : Host ω} (hkeeps : Keeps hm m call.target dir mounted)
    (hbind : bind ∈ call.options) (hleads : LeadsTo call.target dir h₀.files)
    (hstart : ¬mounted h₀.outside) {h : Recorded ω} (hstanding : Standing hm dir mounted call h₀ h)
    (fsType : String) :
    let done := (hm.mount m.recording { call with fsType }).outcome h
    Standing hm dir mounted call h₀ done.2 ∧
      (Waiting hm call h.outside.1 → (done.1 = .ok () ↔ Applied hm call done.2.outside.1)) ∧
      (Half hm call h.outside.1 ∨ Applied hm call h.outside.1 → done.2.outside.1 = h.outside.1 ∧
        (done.1 = .ok () ↔ ∃ points, ((list m.recording).outcome h).1 = .ok points)) := by
  rcases hstanding with hfresh | hmade
  · obtain ⟨hdone, hok⟩ := hfresh.mount hkeeps hbind hleads hstart fsType
    refine ⟨hdone, fun _ ↦ hok, fun h ↦ ?_⟩
    obtain ⟨s, hs, -⟩ := exists_succeeded h
    rw [hfresh.started] at hs
    cases hs
  · obtain ⟨hdone, hrest⟩ := hmade.mount hkeeps hbind fsType
    exact ⟨.inr hdone, hrest⟩

end Trying

section Asking

inductive Attempt where
  | mount (fsType : String)
  | bindMount
  deriving DecidableEq, Repr

variable (hm m) (source target : Path) (options : List String)

def Attempt.perform : Attempt → Action (Host ω) MountError Unit
  | mount fsType => (hm.mounter m).mount { source, target, fsType, options }
  | bindMount => (hm.mounter m).bindMount source target options

def Attempt.fsType : Attempt → String
  | mount fsType => fsType
  | bindMount => ""

def tried (attempts : List Attempt) (h : Host ω) : Host ω :=
  attempts.foldl (fun h a ↦ ((a.perform hm m source target options).outcome h).2) h

def Attempt.Binding (a : Attempt) : Prop := a = bindMount ∨ bind ∈ options

theorem perform_eq {a : Attempt} (ha : a.Binding options) :
    a.perform hm m source target options =
      hm.mount m { MountCall.binding source target options with fsType := a.fsType } := by
  cases a with
  | bindMount => rfl
  | mount fsType =>
    have hbind : bind ∈ options := ha.resolve_left fun h ↦ nomatch h
    simp only [Attempt.perform, mounter, Attempt.fsType, MountCall.binding, if_pos hbind]

theorem bind_mem_binding : bind ∈ (MountCall.binding source target options).options := by
  rw [MountCall.binding]
  split_ifs with hbind
  · exact hbind
  · exact List.mem_cons_self

variable {hm m source target options}

theorem standing_tried {h₀ : Host ω} (hkeeps : Keeps hm m target dir mounted)
    (hleads : LeadsTo target dir h₀.files) (hstart : ¬mounted h₀.outside)
    {attempts : List Attempt} (hbinding : ∀ a ∈ attempts, a.Binding options) {h : Recorded ω}
    (hstanding : Standing hm dir mounted (.binding source target options) h₀ h) :
    Standing hm dir mounted (.binding source target options) h₀
      (tried hm m.recording source target options attempts h) := by
  induction attempts generalizing h with
  | nil => exact hstanding
  | cons a attempts ih =>
    rw [List.forall_mem_cons] at hbinding
    refine ih hbinding.2 ?_
    simp only [perform_eq hm m.recording source target options hbinding.1]
    exact (hstanding.mount hkeeps (bind_mem_binding source target options) hleads hstart a.fsType).1

theorem arguments_eq {call : MountCall} (hoptions : call.options ≠ []) :
    ∃ front, arguments call = front ++ [",".intercalate call.options, call.source, call.target] := by
  have hempty : call.options.isEmpty = false := by simpa using hoptions
  refine ⟨(if call.fsType = "" then [] else ["-t", call.fsType]) ++ ["-o"], ?_⟩
  rw [arguments, hempty]
  simp

theorem options_ne (options : List String) :
    ",".intercalate (bindOptions options) ≠ ",".intercalate (remountOptions options) := by
  intro h
  have hlists := congrArg String.toList h
  simp only [String.toList_intercalate, bindOptions, remountOptions, List.map_cons,
    List.intercalate_cons_cons] at hlists
  cases hdevices : options.filter (· = networkDevice) with
  | nil =>
    -- one of the texts ends where the other goes on
    have hlength := congrArg List.length hlists
    simp only [hdevices, List.map_nil, List.intercalate_singleton, List.length_append] at hlength
    have hcomma : ",".toList.length = 1 := rfl
    omega
  | cons device devices =>
    -- the texts part where one names the device and the other the remount
    have hmem : device ∈ options.filter (· = networkDevice) := hdevices ▸ List.mem_cons_self
    have hdevice : device = networkDevice := of_decide_eq_true (List.mem_filter.1 hmem).2
    simp only [hdevices, hdevice, List.map_cons, List.intercalate_cons_cons] at hlists
    have hrest := List.append_cancel_left hlists
    have hnetwork : networkDevice.toList = '_' :: "netdev".toList := rfl
    have hremount : "remount".toList = 'r' :: "emount".toList := rfl
    rw [hnetwork, hremount, List.intercalate_cons_cons_left, List.intercalate_cons_cons_left] at hrest
    exact absurd (List.cons.inj hrest).1 (by decide)

theorem not_remounts_of_binds {call : MountCall} {s : Machine.Started} (hs : Binds hm call s) :
    ¬Remounts hm call s := by
  rintro ⟨ty', hremounts⟩
  obtain ⟨ty, hbinds⟩ := hs
  have harguments : arguments (bound { call with fsType := ty }) =
      arguments (remounted { call with fsType := ty' }) :=
    congrArg Invocation.arguments (hbinds.symm.trans hremounts)
  have hbound : (bound { call with fsType := ty }).options ≠ [] := List.cons_ne_nil _ _
  have hremounted : (remounted { call with fsType := ty' }).options ≠ [] := List.cons_ne_nil _ _
  obtain ⟨front, hfront⟩ := arguments_eq hbound
  obtain ⟨front', hfront'⟩ := arguments_eq hremounted
  rw [hfront, hfront'] at harguments
  exact options_ne call.options (List.cons.inj (List.append_inj' harguments rfl).2).1

theorem not_remounted_of_half {call : MountCall} {log : List Machine.Started} (hhalf : Half hm call log) :
    ¬∃ s ∈ log, Remounts hm call s ∧ Machine.Succeeded s.2 := by
  rintro ⟨s, hs, hremounts, hsucceeded⟩
  obtain ⟨failed, made, rest, rfl, hfailed, ⟨hbinds, -⟩, hrest⟩ := hhalf
  rcases List.mem_append.1 hs with hs | hs
  · exact (hfailed s hs).2 hsucceeded
  · rcases List.mem_cons.1 hs with rfl | hs
    · exact not_remounts_of_binds hbinds hremounts
    · exact (hrest s hs).2 hsucceeded

/-- Asking for the same binding over and over, on a machine where only the mount program mounts at the
directory. As long as the binding was not made, an attempt succeeds just if both of its commands do. After
that nothing is started any more, and an attempt succeeds just if the table of mounts can be read. So one
that succeeds has the options set by then, unless the binding was made and setting them failed. -/
theorem perform_ok_iff (hkeeps : Keeps hm m target dir mounted) (h : Host ω)
    (hleads : LeadsTo target dir h.files) (hstart : ¬mounted h.outside)
    {attempts : List Attempt} {attempt : Attempt}
    (hbinding : ∀ a ∈ attempt :: attempts, a.Binding options) :
    let call := MountCall.binding source target options
    let before := tried hm m.recording source target options attempts ⟨h.files, [], h.outside⟩
    let log := before.outside.1
    let done := (attempt.perform hm m.recording source target options).outcome before
    (Waiting hm call log ∨ Half hm call log ∨ Applied hm call log) ∧
    (Waiting hm call log → (done.1 = .ok () ↔ Applied hm call done.2.outside.1)) ∧
    (Half hm call log ∨ Applied hm call log → done.2.outside.1 = log ∧
      (done.1 = .ok () ↔ ∃ points, ((list m.recording).outcome before).1 = .ok points)) ∧
    (done.1 = .ok () →
      ((∃ s ∈ done.2.outside.1, Remounts hm call s ∧ Machine.Succeeded s.2) ↔ ¬Half hm call log)) := by
  intro call before log done
  rw [List.forall_mem_cons] at hbinding
  have hfresh : Fresh mounted call h ⟨h.files, [], h.outside⟩ := ⟨⟨0, rfl⟩, rfl, Iff.rfl⟩
  have hstanding : Standing hm dir mounted call h before :=
    standing_tried hkeeps hleads hstart hbinding.2 (.inl hfresh)
  have hperform := perform_eq hm m.recording source target options hbinding.1
  obtain ⟨-, hwaiting, hdone⟩ := hstanding.mount hkeeps (bind_mem_binding source target options)
    hleads hstart attempt.fsType
  rw [← hperform] at hwaiting hdone
  refine ⟨hstanding.stage, hwaiting, hdone, fun hok ↦ ?_⟩
  rcases hstanding.stage with hstage | hstage | hstage
  · obtain ⟨failed, made, set, hlog, -, -, hset⟩ := (hwaiting hstage).1 hok
    refine iff_of_true ⟨set, hlog ▸ by simp, hset⟩ fun hhalf ↦ ?_
    obtain ⟨s, hs, hsucceeded⟩ := exists_succeeded (.inl hhalf)
    exact (hstage s hs).2 hsucceeded
  · rw [(hdone (.inl hstage)).1]
    exact iff_of_false (not_remounted_of_half hstage) (not_not_intro hstage)
  · rw [(hdone (.inr hstage)).1]
    obtain ⟨failed, made, set, hlog, -, -, hset⟩ := hstage
    have hremounted : ∃ s ∈ log, Remounts hm call s ∧ Machine.Succeeded s.2 := by
      refine ⟨set, ?_, hset⟩
      simp only [log, hlog, List.mem_append, List.mem_cons, true_or, or_true]
    exact iff_of_true hremounted fun hhalf ↦ not_remounted_of_half hhalf hremounted

theorem leadsTo_of_made {t t' : FileTree}
    (hmade : (FileTree.createAll targetMode target).outcome t = (.ok (), t')) :
    LeadsTo target (place target t') t := by
  have hmaking : making target t = t' := congrArg Prod.snd hmade
  have hagain := FileTree.createAll_again hmade
  have hfixed : making target t' = t' := congrArg Prod.snd hagain
  intro n t'' ht''
  cases n with
  | zero =>
    rw [Function.iterate_zero, id, hmade] at ht''
    cases ht''
    rfl
  | succ n =>
    rw [Function.iterate_succ_apply, hmaking, Function.iterate_fixed hfixed, hagain] at ht''
    cases ht''
    rfl

/-- A machine whose mount program ends with given codes, one after the other. All that it can mount is at
one directory. -/
def scripted : Machine (Bool × List Nat) where
  find? _ _ := none
  run _ _ o := (.ok ⟨[], .exited (o.2.headD 0)⟩, (o.1 || o.2.headD 0 = 0, o.2.tail))
  readTable o :=
    (.ok (KernelMount.table (if o.1 then [⟨"/dev/sda1", "/data", "ext4", "rw", 0, 0⟩] else [])), o)

theorem keeps_scripted (hm : HostMounter) : Keeps hm scripted "/data" "/data" (·.1 = true) where
  run i files o _ _ _ := by
    simp [scripted, Machine.Succeeded, Ending.isSuccess]
  readTable o := Iff.rfl
  listed o bytes points hbytes hpoints := by
    let k : KernelMount := ⟨"/dev/sda1", "/data", "ext4", "rw", 0, 0⟩
    have hcanonical : Path.IsCanonical "/data" :=
      ⟨["data"], List.forall_mem_singleton.2 ⟨by decide, by decide, by decide, by decide⟩, by decide⟩
    have hthere : k.entry.isAt "/data" = true :=
      (KernelMount.isAt_entry hcanonical (by decide) hcanonical).2 (by decide)
    obtain ⟨mounted, codes⟩ := o
    cases hbytes
    cases mounted with
    | false =>
      have hread : MountTable.read (KernelMount.table []) = .ok [] := KernelMount.read_table (by simp)
      cases hread.symm.trans hpoints
      exact iff_of_false Bool.false_ne_true Bool.false_ne_true
    | true =>
      have hread : MountTable.read (KernelMount.table [k]) = .ok [k.entry] :=
        KernelMount.read_table (List.forall_mem_singleton.2 (by decide))
      cases hread.symm.trans hpoints
      refine iff_of_true ?_ rfl
      rw [List.any_cons, hthere, Bool.true_or]

theorem perform_ok_iff_of_read_only :
    let hm : HostMounter := ⟨"/bin/mount", "/bin/umount"⟩
    let h : Host (Bool × List Nat) := ⟨{}, (false, [0, 32])⟩
    let before := tried hm scripted.recording "/src" "/data" ["ro"] [.bindMount] ⟨h.files, [], h.outside⟩
    let log := before.outside.1
    let done := (Attempt.bindMount.perform hm scripted.recording "/src" "/data" ["ro"]).outcome before
    Keeps hm scripted "/data" "/data" (·.1 = true) ∧ LeadsTo "/data" "/data" h.files ∧
      ¬h.outside.1 = true ∧ (∀ a ∈ [Attempt.bindMount, .bindMount], a.Binding ["ro"]) ∧
      (done.1 = .ok () → ((∃ s ∈ done.2.outside.1,
        Remounts hm (.binding "/src" "/data" ["ro"]) s ∧ Machine.Succeeded s.2) ↔
          ¬Half hm (.binding "/src" "/data" ["ro"]) log)) := by
  intro hm h before log done
  have hmade : (FileTree.createAll targetMode "/data").outcome {} =
      (.ok (), FileTree.set {} ["data"] (.directory targetMode)) :=
    FileTree.createAll.go_of_create (by decide) rfl
  have hplace : place "/data" (FileTree.set {} ["data"] (.directory targetMode)) = "/data" := by
    decide +kernel
  have hleads : LeadsTo "/data" "/data" h.files := hplace ▸ leadsTo_of_made hmade
  have hbinding : ∀ a ∈ [Attempt.bindMount, .bindMount], a.Binding ["ro"] := by
    simp [Attempt.Binding]
  exact ⟨keeps_scripted hm, hleads, Bool.false_ne_true, hbinding,
    (perform_ok_iff (keeps_scripted hm) h hleads Bool.false_ne_true hbinding).2.2.2⟩

/-- The second attempt succeeds although the options were never set. -/
theorem perform_leaves_options_unset :
    let hm : HostMounter := ⟨"/bin/mount", "/bin/umount"⟩
    let before := tried hm scripted.recording "/src" "/data" ["ro"] [.bindMount] ⟨{}, [], (false, [0, 32])⟩
    let done := (Attempt.bindMount.perform hm scripted.recording "/src" "/data" ["ro"]).outcome before
    done.1 = .ok () ∧ done.2.outside.1 =
      [(⟨"/bin/mount", ["-o", "bind", "/src", "/data"], none⟩, .ok ⟨[], .exited 0⟩),
        (⟨"/bin/mount", ["-o", "bind,remount,ro", "/src", "/data"], none⟩, .ok ⟨[], .exited 32⟩)] := by
  decide +kernel

end Asking

end RealmDriver.HostMounter
