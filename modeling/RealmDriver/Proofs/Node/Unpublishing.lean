import RealmDriver.Proofs.Files.Removal
import RealmDriver.Proofs.Mount.Stacking
import RealmDriver.Proofs.Node.Calls

namespace RealmDriver

namespace UnpublishMessage

variable {m : UnpublishMessage}

structure IsComplete (m : UnpublishMessage) : Prop where
  volume : m.volumeId ≠ ""
  target : Path.isAbsolute m.target = true

theorem ofMessage_ok_iff {r : UnpublishRequest} :
    UnpublishRequest.ofMessage m = .ok r ↔ m.IsComplete ∧ r = ⟨m.volumeId, m.target⟩ := by
  simp only [UnpublishRequest.ofMessage, Except.guard_ok_iff, Except.bind_ok_iff,
    PublishRequest.requiredDirectory_ok_iff]
  constructor
  · rintro ⟨hvolume, _, ⟨htarget, rfl⟩, ⟨⟩⟩
    exact ⟨⟨hvolume, decide_eq_true htarget⟩, rfl⟩
  · rintro ⟨⟨hvolume, htarget⟩, rfl⟩
    exact ⟨hvolume, m.target, ⟨of_decide_eq_true htarget, rfl⟩, rfl⟩

theorem ofMessage_incomplete (h : ¬m.IsComplete) :
    ∃ status, UnpublishRequest.ofMessage m = .error status ∧ status.code = .invalidArgument := by
  have hblames : Blames Status.code (UnpublishRequest.ofMessage m) := by
    apply Blames.guard rfl
    apply Blames.bind (PublishRequest.requiredDirectory_blames _ _)
    intro target
    exact .ok _
  cases hmessage : UnpublishRequest.ofMessage m with
  | error status => exact ⟨status, rfl, hblames status hmessage⟩
  | ok r => exact absurd (ofMessage_ok_iff.1 hmessage).1 h

end UnpublishMessage

namespace MountMemory

variable {ω : Type} {m : MountMemory} {dir : Path} {points : List MountPoint}

/-- Something is mounted at a directory and will stay so, since unmounting fails. -/
def IsStuck (m : MountMemory) (dir : Path) : Prop :=
  m.hasMountAt dir = true ∧ ∃ text, m.unmountFailure = some text

/-- Of the entries of a table the first one at a directory is gone, if there was any. -/
inductive LosesFirst (dir : Path) : List MountPoint → List MountPoint → Prop
  | absent {points : List MountPoint} (h : ∀ p ∈ points, p.isAt dir = false) :
    LosesFirst dir points points
  | first {before after : List MountPoint} {p : MountPoint} (hbefore : ∀ q ∈ before, q.isAt dir = false)
    (hp : p.isAt dir = true) : LosesFirst dir (before ++ p :: after) (before ++ after)

theorem losesFirst_eraseP (dir : Path) (points : List MountPoint) :
    LosesFirst dir points (points.eraseP (·.isAt dir)) := by
  by_cases hany : ∃ p ∈ points, p.isAt dir = true
  · obtain ⟨p, hmem, hp⟩ := hany
    obtain ⟨q, before, after, hbefore, hq, hpoints, herase⟩ :=
      List.exists_of_eraseP (p := (·.isAt dir)) hmem hp
    rw [herase, hpoints]
    exact .first (fun q' hq' ↦ Bool.eq_false_iff.2 (hbefore q' hq')) hq
  · have hnone : ∀ p ∈ points, ¬p.isAt dir = true := fun p hmem hp ↦ hany ⟨p, hmem, hp⟩
    rw [List.eraseP_of_forall_not hnone]
    exact .absent fun p hmem ↦ Bool.eq_false_iff.2 (hnone p hmem)

theorem Effect.of_unmounted {result : Except MountError Unit} {m' : MountMemory} {target : Path}
    (h : Effect m (.unmount target) result m') :
    (m.IsStuck target ∧ (∃ text, result = .error (.unmountFailed text)) ∧ m' = m) ∨
      ¬m.IsStuck target ∧ result = .ok () ∧
        m' = { m with
          points := m.points.eraseP (·.isAt target), log := m.log ++ [.unmounted target] } := by
  cases h with
  | added hcall => cases hcall
  | unadded hcall => cases hcall
  | removed _ hm =>
    refine .inr ⟨?_, rfl, rfl⟩
    rintro ⟨hat, text, htext⟩
    exact absurd ((hm hat).symm.trans htext) (by simp)
  | unremoved _ hat hm => exact .inl ⟨⟨hat, _, hm⟩, ⟨_, rfl⟩, rfl⟩

end MountMemory

namespace Node

variable {ω : Type} {get : ω → MountMemory} {set : MountMemory → ω → ω} {h : Host ω} {target : Path}
  {r : UnpublishRequest}

open MountMemory (LosesFirst mounter)

/-- What a host is after a volume was taken away from a directory: the table has lost the first mount there,
and of all files and directories the directory itself is gone, if it was empty. -/
structure Released (get : ω → MountMemory) (target : Path) (h h' : Host ω) : Prop where
  points : LosesFirst target (get h.outside).points (get h'.outside).points
  failures : (get h'.outside).mountFailure = (get h.outside).mountFailure ∧
    (get h'.outside).unmountFailure = (get h.outside).unmountFailure
  entries : ∀ k e, h'.files.entry? k = some e ↔
    h.files.entry? k = some e ∧ ¬h.files.EmptyDirectory target k
  workingDirectory : h'.files.workingDirectory = h.files.workingDirectory

inductive Unpublishing (get : ω → MountMemory) (target : Path) (h : Host ω) :
    Except Failure Unit × Host ω → Prop
  | stuck {text : String} {h' : Host ω} (hstuck : (get h.outside).IsStuck target)
    (hfiles : h'.files = h.files) (hmemory : get h'.outside = get h.outside) :
    Unpublishing get target h (.error (.internal text), h')
  | released {h' : Host ω} (hfree : ¬(get h.outside).IsStuck target)
    (hfiles : h'.files = h.files.cleared target) (hreleased : Released get target h h') :
    Unpublishing get target h (.ok (), h')

theorem unpublish_unpublishing (hget : ∀ m o, get (set m o) = m) (r : UnpublishRequest) (h : Host ω) :
    Unpublishing get r.target h ((unpublish (mounter get set) r).outcome h) := by
  have heffect := MountMemory.effect_perform hget (h := h) (.unmount r.target)
  have hfiles : ((((mounter get set).unmount r.target).outcome h).2).files = h.files := rfl
  rw [MounterCall.perform] at heffect
  rw [unpublish, Action.outcome_bind, Action.outcome_rephrase]
  rcases hunmount : ((mounter get set).unmount r.target).outcome h with ⟨result, h'⟩
  rw [hunmount] at heffect hfiles
  rcases heffect.of_unmounted with ⟨hstuck, ⟨text, rfl⟩, hmemory⟩ | ⟨hfree, rfl, hmemory⟩
  · exact .stuck hstuck hfiles hmemory
  · have hcleared : ∀ k e, FileTree.entry? (h'.files.cleared r.target) k = some e ↔
        h.files.entry? k = some e ∧ ¬h.files.EmptyDirectory r.target k := by
      intro k e
      rw [hfiles, FileTree.entry?_cleared]
    refine .released hfree (congrArg (·.cleared r.target) hfiles) ⟨?_, ?_, hcleared, ?_⟩
    · change LosesFirst r.target _ (get h'.outside).points
      rw [hmemory]
      exact MountMemory.losesFirst_eraseP _ _
    · change (get h'.outside).mountFailure = _ ∧ (get h'.outside).unmountFailure = _
      rw [hmemory]
      exact ⟨rfl, rfl⟩
    · exact FileTree.cleared_workingDirectory.trans (congrArg (·.workingDirectory) hfiles)

theorem Unpublishing.not_stuck (hfailure : (get h.outside).unmountFailure = none) :
    ¬(get h.outside).IsStuck target := by
  rintro ⟨-, text, htext⟩
  exact absurd (hfailure.symm.trans htext) (by simp)

theorem unpublish_of_no_failure (hget : ∀ m o, get (set m o) = m) (r : UnpublishRequest)
    (hfailure : (get h.outside).unmountFailure = none) :
    ∃ h', (unpublish (mounter get set) r).outcome h = (.ok (), h') ∧
      (get h'.outside).unmountFailure = none ∧ h'.files = h.files.cleared r.target ∧
      (get h'.outside).depth r.target = (get h.outside).depth r.target - 1 := by
  have hunpublishing := unpublish_unpublishing hget r h
  rcases hunpublish : (unpublish (mounter get set) r).outcome h with ⟨result, h'⟩
  rw [hunpublish] at hunpublishing
  cases hunpublishing with
  | stuck hstuck => exact absurd hstuck (Unpublishing.not_stuck hfailure)
  | released _ hfiles hreleased =>
    refine ⟨h', rfl, hreleased.failures.2.trans hfailure, hfiles, ?_⟩
    have hdepth := MountMemory.depth_unpublished (h := h) hget (congrArg Prod.fst hunpublish)
    rwa [hunpublish] at hdepth

/-- The host after a volume was taken away from the same directory a number of times. -/
def unpublished (mounter : Mounter ω) (r : UnpublishRequest) (n : Nat) (h : Host ω) : Host ω :=
  (fun h ↦ ((unpublish mounter r).outcome h).2)^[n] h

/-- Once more goes as well as the first time, and it only takes away one more of the mounts. -/
theorem unpublish_again (hget : ∀ m o, get (set m o) = m) (r : UnpublishRequest)
    (hfailure : (get h.outside).unmountFailure = none) (n : Nat) :
    let again := unpublished (mounter get set) r (n + 1) h
    (get again.outside).unmountFailure = none ∧ again.files = h.files.cleared r.target ∧
      (get again.outside).depth r.target = (get h.outside).depth r.target - (n + 1) := by
  induction n with
  | zero =>
    obtain ⟨h', hunpublish, hnone, hfiles, hdepth⟩ := unpublish_of_no_failure hget r hfailure
    simp only [unpublished, Nat.zero_add, Function.iterate_one, hunpublish]
    exact ⟨hnone, hfiles, hdepth⟩
  | succ n ih =>
    obtain ⟨hnone, hfiles, hdepth⟩ := ih
    obtain ⟨h', hunpublish, hnone', hfiles', hdepth'⟩ := unpublish_of_no_failure hget r hnone
    rw [unpublished] at hunpublish hfiles hfiles' hdepth hdepth'
    simp only [unpublished, Function.iterate_succ_apply' _ (n + 1), hunpublish]
    refine ⟨hnone', ?_, ?_⟩
    · rw [hfiles', hfiles, FileTree.cleared_cleared]
    · rw [hdepth', hdepth, Nat.sub_sub]

end Node

namespace Plugin

variable {ω : Type} {mode : Mode} (settings : PluginSettings)

theorem handle_unpublish (hmode : mode.servesNode = true) (realm : Realm (Host ω)) (mounter : Mounter ω)
    (annotator : Annotator (Host ω)) (m : UnpublishMessage) (t : Readiness × Host ω) :
    (service settings realm mounter annotator).handle mode (.unpublish m) t =
      match UnpublishRequest.ofMessage m with
      | .error status => ({ result := .error status }, t)
      | .ok r =>
        let done := (Node.unpublish mounter r).outcome t.2
        ({ result := (done.1.map fun _ ↦ .done).mapError Failure.status }, t.1, done.2) := by
  simp only [Service.handle, Call.isServed, hmode]
  cases hmessage : UnpublishRequest.ofMessage m with
  | error status => rfl
  | ok r =>
    simp only [Service.respond, service, onHost, Action.outcome_on, Bool.not_true, Bool.false_eq_true,
      if_false]
    rcases (Node.unpublish mounter r).outcome t.2 with ⟨f | ⟨⟩, h⟩ <;> rfl

theorem handle_unpublish_incomplete (hmode : mode.servesNode = true) (realm : Realm (Host ω))
    (mounter : Mounter ω) (annotator : Annotator (Host ω)) {m : UnpublishMessage}
    (hincomplete : ¬m.IsComplete) (t : Readiness × Host ω) :
    ∃ status, (service settings realm mounter annotator).handle mode (.unpublish m) t =
      ({ result := .error status }, t) ∧ status.code = .invalidArgument := by
  obtain ⟨status, hread, hcode⟩ := UnpublishMessage.ofMessage_incomplete hincomplete
  refine ⟨status, ?_, hcode⟩
  rw [handle_unpublish settings hmode, hread]

open MountMemory (mounter)

section

variable {get : ω → MountMemory} {set : MountMemory → ω → ω} {m : UnpublishMessage}
  {t : Readiness × Host ω}

theorem handle_unpublish_stuck (hmode : mode.servesNode = true) (hget : ∀ m o, get (set m o) = m)
    (realm : Realm (Host ω)) (annotator : Annotator (Host ω)) (hcomplete : m.IsComplete)
    (hstuck : (get t.2.outside).IsStuck m.target) :
    ∃ status h', (service settings realm (mounter get set) annotator).handle mode (.unpublish m) t =
      ({ result := .error status }, t.1, h') ∧ status.code = .internal ∧ h'.files = t.2.files ∧
      get h'.outside = get t.2.outside := by
  have hunpublishing := Node.unpublish_unpublishing hget ⟨m.volumeId, m.target⟩ t.2
  rw [handle_unpublish settings hmode, UnpublishMessage.ofMessage_ok_iff.2 ⟨hcomplete, rfl⟩]
  dsimp only
  generalize (Node.unpublish (mounter get set) ⟨m.volumeId, m.target⟩).outcome t.2 = done at hunpublishing ⊢
  cases hunpublishing with
  | stuck _ hfiles hmemory => exact ⟨_, _, rfl, rfl, hfiles, hmemory⟩
  | released hfree => exact absurd hstuck hfree

theorem handle_unpublish_free (hmode : mode.servesNode = true) (hget : ∀ m o, get (set m o) = m)
    (realm : Realm (Host ω)) (annotator : Annotator (Host ω)) (hcomplete : m.IsComplete)
    (hfree : ¬(get t.2.outside).IsStuck m.target) :
    ∃ h', (service settings realm (mounter get set) annotator).handle mode (.unpublish m) t =
      ({ result := .ok .done }, t.1, h') ∧ h'.files = t.2.files.cleared m.target ∧
      Node.Released get m.target t.2 h' := by
  have hunpublishing := Node.unpublish_unpublishing hget ⟨m.volumeId, m.target⟩ t.2
  rw [handle_unpublish settings hmode, UnpublishMessage.ofMessage_ok_iff.2 ⟨hcomplete, rfl⟩]
  dsimp only
  generalize (Node.unpublish (mounter get set) ⟨m.volumeId, m.target⟩).outcome t.2 = done at hunpublishing ⊢
  cases hunpublishing with
  | stuck hstuck => exact absurd hstuck hfree
  | released _ hfiles hreleased => exact ⟨_, rfl, hfiles, hreleased⟩

theorem iterate_unpublish (hmode : mode.servesNode = true) (realm : Realm (Host ω))
    (annotator : Annotator (Host ω)) (hcomplete : m.IsComplete) (n : Nat) (t : Readiness × Host ω) :
    (fun t ↦ ((service settings realm (mounter get set) annotator).handle mode (.unpublish m) t).2)^[n] t =
      (t.1, Node.unpublished (mounter get set) ⟨m.volumeId, m.target⟩ n t.2) := by
  induction n with
  | zero => rfl
  | succ n ih =>
    rw [Function.iterate_succ_apply', ih, handle_unpublish settings hmode,
      UnpublishMessage.ofMessage_ok_iff.2 ⟨hcomplete, rfl⟩, Node.unpublished, Node.unpublished,
      Function.iterate_succ_apply']

end

/-- A message to take a volume away touches nothing but its target. If the mount there cannot be unmounted,
the fault is the driver's own and nothing changed. Else the answer is good whatever is at the target: the
table has lost the first mount there, and the target is gone if it was an empty directory. If unmounting never
fails, the answer is as good any number of times, and only mounts are taken away by all but the first. -/
theorem unpublish_touches_target {get : ω → MountMemory} {set : MountMemory → ω → ω}
    (hmode : mode.servesNode = true) (hget : ∀ m o, get (set m o) = m) (realm : Realm (Host ω))
    (annotator : Annotator (Host ω)) (m : UnpublishMessage) (t : Readiness × Host ω) :
    let handle := (service settings realm (mounter get set) annotator).handle mode (.unpublish m)
    let repeated := fun n ↦ (fun t ↦ (handle t).2)^[n] t
    (handle t).2.1 = t.1 ∧
    (¬m.IsComplete → (handle t).2 = t ∧
      ∃ status, (handle t).1.result = .error status ∧ status.code = .invalidArgument) ∧
    (m.IsComplete → (get t.2.outside).IsStuck m.target →
      (handle t).2.2.files = t.2.files ∧ get (handle t).2.2.outside = get t.2.outside ∧
      ∃ status, (handle t).1.result = .error status ∧ status.code = .internal) ∧
    (m.IsComplete → ¬(get t.2.outside).IsStuck m.target →
      (handle t).1.result = .ok .done ∧ Node.Released get m.target t.2 (handle t).2.2) ∧
    (m.IsComplete → (get t.2.outside).unmountFailure = none → ∀ n,
      (handle (repeated (n + 1))).1.result = .ok .done ∧
      (repeated (n + 1)).2.files = (handle t).2.2.files ∧
      (get (repeated (n + 1)).2.outside).depth m.target = (get t.2.outside).depth m.target - (n + 1)) := by
  intro handle repeated
  refine ⟨?_, fun hincomplete ↦ ?_, fun hcomplete hstuck ↦ ?_, fun hcomplete hfree ↦ ?_,
    fun hcomplete hfailure n ↦ ?_⟩
  · simp only [handle, handle_unpublish settings hmode]
    cases UnpublishRequest.ofMessage m with
    | error status => rfl
    | ok r => rfl
  · obtain ⟨status, hhandle, hcode⟩ :=
      handle_unpublish_incomplete settings hmode realm (mounter get set) annotator hincomplete t
    rw [show handle t = _ from hhandle]
    exact ⟨rfl, status, rfl, hcode⟩
  · obtain ⟨status, h', hhandle, hcode, hfiles, hmemory⟩ :=
      handle_unpublish_stuck settings hmode hget realm annotator hcomplete hstuck
    rw [show handle t = _ from hhandle]
    exact ⟨hfiles, hmemory, status, rfl, hcode⟩
  · obtain ⟨h', hhandle, -, hreleased⟩ :=
      handle_unpublish_free settings hmode hget realm annotator hcomplete hfree
    rw [show handle t = _ from hhandle]
    exact ⟨rfl, hreleased⟩
  · have hrepeated : repeated (n + 1) = _ :=
      iterate_unpublish settings hmode realm annotator hcomplete (n + 1) t
    obtain ⟨hnone, hfiles, hdepth⟩ := Node.unpublish_again hget ⟨m.volumeId, m.target⟩ hfailure n
    obtain ⟨h₁, hfirst, hfirstFiles, -⟩ := handle_unpublish_free settings hmode hget realm annotator
      hcomplete (Node.Unpublishing.not_stuck hfailure)
    generalize Node.unpublished (mounter get set) ⟨m.volumeId, m.target⟩ (n + 1) t.2 = last
      at hrepeated hnone hfiles hdepth
    obtain ⟨h₂, hlater, -⟩ := handle_unpublish_free (t := (t.1, last)) settings hmode hget realm annotator
      hcomplete (Node.Unpublishing.not_stuck hnone)
    rw [hrepeated]
    refine ⟨?_, ?_, hdepth⟩
    · rw [show handle _ = _ from hlater]
    · rw [show handle t = _ from hfirst]
      exact hfiles.trans hfirstFiles.symm

def twiceMounted : Host MountMemory where
  files := {
    entries := Std.ExtTreeMap.ofList
      [(["data"], Entry.directory 0o755), (["other"], Entry.directory 0o755)] }
  outside := { points := ["b", "a", "a"].map fun device ↦
    { device, path := if device = "b" then "/other" else "/data", fsType := "panfs", options := [] } }

theorem unpublish_touches_target_of_mounted :
    Mode.node.servesNode = true ∧
    (∀ m o : MountMemory, id ((fun m _ ↦ m) m o) = m) ∧
    let m : UnpublishMessage := ⟨"a", "/data"⟩
    m.IsComplete ∧ ¬(id twiceMounted.outside).IsStuck m.target ∧
    let handle := (onNode (mounter id fun m _ ↦ m)).handle .node (.unpublish m)
    (handle ({}, twiceMounted)).1.result = .ok .done ∧
    Node.Released id m.target twiceMounted (handle ({}, twiceMounted)).2.2 ∧
    (handle ({}, twiceMounted)).2.2.files.entries.toList = [(["other"], .directory 0o755)] ∧
    ((fun t ↦ (handle t).2)^[2] ({}, twiceMounted)).2.outside.depth m.target = 0 := by
  have hmode : Mode.node.servesNode = true := rfl
  have hget : ∀ m o : MountMemory, id ((fun m _ ↦ m) m o) = m := fun _ _ ↦ rfl
  have hcomplete : (⟨"a", "/data"⟩ : UnpublishMessage).IsComplete := ⟨by decide, by decide +kernel⟩
  obtain ⟨-, -, -, hfree, hagain⟩ := unpublish_touches_target ⟨"panfs", "node", "ready", "/kmip"⟩ hmode hget
    deserted .idle ⟨"a", "/data"⟩ ({}, twiceMounted)
  have hnot : ¬(id twiceMounted.outside).IsStuck "/data" := Node.Unpublishing.not_stuck rfl
  obtain ⟨hresult, hreleased⟩ := hfree hcomplete hnot
  obtain ⟨-, -, hdepth⟩ := hagain hcomplete rfl 1
  exact ⟨hmode, hget, hcomplete, hnot, hresult, hreleased, by decide +kernel,
    hdepth.trans (by decide +kernel)⟩

end Plugin

end RealmDriver
