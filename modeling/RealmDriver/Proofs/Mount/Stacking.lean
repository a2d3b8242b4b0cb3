import RealmDriver.Mount.Memory
import RealmDriver.Proofs.Node.Publishing

namespace RealmDriver

variable {ω : Type}

def Mounter.Mounted (mounter : Mounter ω) (dir : Path) (h : Host ω) : Prop :=
  ((mounter.isMountPoint dir).outcome h).1 = .ok true

inductive MounterCall where
  | mount (call : MountCall)
  | bindMount (source target : Path) (options : List String)
  | unmount (target : Path)
  deriving DecidableEq, Repr

theorem MountPoint.isAt_of_path {p : MountPoint} {dir : Path} (h : p.path = dir) : p.isAt dir = true := by
  simp [MountPoint.isAt, Path.same, h]

namespace MounterCall

def target : MounterCall → Path
  | mount call => call.target
  | bindMount _ target _ => target
  | unmount target => target

def perform (mounter : Mounter ω) : MounterCall → Action (Host ω) MountError Unit
  | mount call => mounter.mount call
  | bindMount source target options => mounter.bindMount source target options
  | unmount target => mounter.unmount target

def mounts? : MounterCall → Option MountCall
  | mount call => some call
  | bindMount source target options => some (.binding source target options)
  | unmount _ => none

def IsApart (dir : Path) (c : MounterCall) : Prop :=
  ∀ p : MountPoint, p.isAt c.target = true → p.isAt dir = false

theorem target_of_mounts? {c : MounterCall} {call : MountCall} (h : c.mounts? = some call) :
    call.target = c.target := by
  cases c with
  | mount call' => cases h; rfl
  | bindMount source target options => cases h; rfl
  | unmount target => cases h

theorem perform_of_mounts? (mounter : Mounter ω) {c : MounterCall} {call : MountCall}
    (h : c.mounts? = some call) : c.perform mounter = mounter.mount call := by
  cases c with
  | mount call' => cases h; rfl
  | bindMount source target options => cases h; rfl
  | unmount target => cases h

theorem perform_of_mounts?_none (mounter : Mounter ω) {c : MounterCall} (h : c.mounts? = none) :
    c.perform mounter = mounter.unmount c.target := by
  cases c with
  | mount call => cases h
  | bindMount source target options => cases h
  | unmount target => rfl

theorem IsApart.ne {dir : Path} {c : MounterCall} (h : c.IsApart dir) : c.target ≠ dir := by
  intro heq
  have hat := MountPoint.isAt_of_path (p := ⟨"", dir, "", [], 0, 0⟩) rfl
  simpa [hat] using h ⟨"", dir, "", [], 0, 0⟩ (heq ▸ hat)

end MounterCall

/-- A host after a number of calls, whichever way each of them ended. -/
def Mounter.performed (mounter : Mounter ω) (calls : List MounterCall) (h : Host ω) : Host ω :=
  calls.foldl (fun h c ↦ ((c.perform mounter).outcome h).2) h

namespace Node

variable {directory : Path} {mounter : Mounter ω} {h h' : Host ω}

theorem mounts_of_publish_ok {r : PublishRequest}
    (hok : ((publish directory mounter r).outcome h).1 = .ok ()) :
    ∃ (c : MounterCall) (files : FileTree), c.target = r.target ∧ (c.mounts?).isSome = true ∧
      ((c.perform mounter).outcome { h with files }).1 = .ok () ∧
      ((publish directory mounter r).outcome h).2.outside =
        ((c.perform mounter).outcome { h with files }).2.outside := by
  cases hcheck : check r with
  | error f => simp [publish_refused hcheck] at hok
  | ok options =>
    have hoptions := of_check_ok hcheck
    subst hoptions
    cases hencrypted : isEncrypted r.context with
    | false =>
      rw [publish_plain hcheck hencrypted] at hok ⊢
      refine ⟨.mount (mountCall r (mountOptions r)), h.files, rfl, rfl, ?_, rfl⟩
      exact Except.mapError_ok_iff.1 hok
    | true =>
      rcases hcreate : (KeyManagerFile.create directory
        r.secrets[Secret.keyManager.key]?).outcome h.files with ⟨e | file, files⟩
      · simp [publish_unmade hcheck hencrypted hcreate] at hok
      · rw [publish_made hcheck hencrypted hcreate] at hok ⊢
        refine ⟨.mount (mountCall r (mountOptions r ++ [file.option])), files, rfl, rfl, ?_, rfl⟩
        exact Except.mapError_ok_iff.1 hok

theorem unmounts_of_unpublish_ok {r : UnpublishRequest}
    (hok : ((unpublish mounter r).outcome h).1 = .ok ()) :
    ((mounter.unmount r.target).outcome h).1 = .ok () ∧
      ((unpublish mounter r).outcome h).2.outside =
        ((mounter.unmount r.target).outcome h).2.outside := by
  rw [unpublish, Action.outcome_bind, Action.outcome_rephrase] at hok ⊢
  rcases hunmount : (mounter.unmount r.target).outcome h with ⟨e | u, h'⟩
  · simp [hunmount, Except.mapError] at hok
  · simp [Except.mapError]

/-- A number of successful publications at one target, one after the other. -/
inductive Published (directory : Path) (mounter : Mounter ω) (target : Path) :
    Nat → Host ω → Host ω → Prop
  | none (h : Host ω) : Published directory mounter target 0 h h
  | again {n : Nat} {h h' : Host ω} {r : PublishRequest}
      (hbefore : Published directory mounter target n h h') (htarget : r.target = target)
      (hok : ((publish directory mounter r).outcome h').1 = .ok ()) :
      Published directory mounter target (n + 1) h ((publish directory mounter r).outcome h').2

end Node

namespace MountMemory

variable {m m' : MountMemory} {dir target : Path} {call : MountCall}

def depth (dir : Path) (m : MountMemory) : Nat := m.points.countP (·.isAt dir)

theorem hasMountAt_iff : m.hasMountAt dir = true ↔ 1 ≤ m.depth dir := by
  simp [hasMountAt, depth, Nat.one_le_iff_ne_zero, List.countP_eq_zero]

theorem countP_eraseP_self (points : List MountPoint) (q : MountPoint → Bool) :
    (points.eraseP q).countP q = points.countP q - 1 := by
  induction points with
  | nil => rfl
  | cons p points ih =>
    by_cases hp : q p = true
    · simp [List.eraseP_cons_of_pos hp, List.countP_cons_of_pos hp]
    · simp [List.eraseP_cons_of_neg hp, List.countP_cons_of_neg hp, ih]

theorem countP_eraseP_of_apart {points : List MountPoint} {q q' : MountPoint → Bool}
    (h : ∀ p, q' p = true → q p = false) : (points.eraseP q').countP q = points.countP q := by
  induction points with
  | nil => rfl
  | cons p points ih =>
    by_cases hp : q' p = true
    · simp [List.eraseP_cons_of_pos hp, h p hp]
    · simp [List.eraseP_cons_of_neg hp, List.countP_cons, ih]

/-- The ways in which a call ends, with the memory that it leaves. -/
inductive Effect (m : MountMemory) (c : MounterCall) : Except MountError Unit → MountMemory → Prop
  | added {call : MountCall} {p : MountPoint} (hcall : c.mounts? = some call)
      (hm : m.mountFailure = none) (hp : p.path = c.target) :
      Effect m c (.ok ()) { m with points := m.points ++ [p], log := m.log ++ [.mounted call] }
  | unadded {call : MountCall} {text : String} (hcall : c.mounts? = some call)
      (hm : m.mountFailure = some text) : Effect m c (.error (.mountFailed text)) m
  | removed (hcall : c.mounts? = none)
      (hm : m.hasMountAt c.target = true → m.unmountFailure = none) :
      Effect m c (.ok ()) { m with
        points := m.points.eraseP (·.isAt c.target), log := m.log ++ [.unmounted c.target] }
  | unremoved {text : String} (hcall : c.mounts? = none) (hat : m.hasMountAt c.target = true)
      (hm : m.unmountFailure = some text) : Effect m c (.error (.unmountFailed text)) m

/-- What a call does to the number of mounts at its target, as far as calls do not fail. -/
def stacked (dir : Path) (m : MountMemory) (n : Nat) (c : MounterCall) : Nat :=
  if c.target = dir then
    match c.mounts? with
    | some _ => if m.mountFailure = none then n + 1 else n
    | none => if m.unmountFailure = none then n - 1 else n
  else n

variable {c : MounterCall} {result : Except MountError Unit}

theorem Effect.failures (h : Effect m c result m') :
    m'.mountFailure = m.mountFailure ∧ m'.unmountFailure = m.unmountFailure := by
  cases h <;> exact ⟨rfl, rfl⟩

theorem Effect.depth_added (h : Effect m c (.ok ()) m') (hcall : c.mounts? = some call) :
    m'.depth c.target = m.depth c.target + 1 := by
  cases h with
  | added _ hm hp => simp [depth, List.countP_append, MountPoint.isAt_of_path hp]
  | removed hnone hm => simp [hcall] at hnone

theorem Effect.depth_removed (h : Effect m c (.ok ()) m') (hcall : c.mounts? = none) :
    m'.depth c.target = m.depth c.target - 1 := by
  cases h with
  | added hsome hm hp => simp [hcall] at hsome
  | removed _ hm => exact countP_eraseP_self _ _

theorem Effect.ok_iff (h : Effect m c result m') (hcall : c.mounts? = some call) :
    (result = .ok () ↔ m.mountFailure = none) ∧ (m'.points = m.points ↔ m.mountFailure ≠ none) := by
  cases h with
  | added _ hm hp => simp [hm]
  | unadded _ hm => simp [hm]
  | removed hnone hm => simp [hcall] at hnone
  | unremoved hnone hat hm => simp [hcall] at hnone

theorem Effect.depth_at (h : Effect m c result m') (hc : c.target = dir) :
    m'.depth dir = stacked dir m (m.depth dir) c := by
  subst hc
  cases h with
  | added hcall hm hp =>
    simpa [stacked, hcall, hm] using (Effect.added hcall hm hp).depth_added hcall
  | unadded hcall hm => simp [stacked, hcall, hm]
  | removed hcall hm =>
    rw [(Effect.removed hcall hm).depth_removed hcall]
    by_cases hfailure : m.unmountFailure = none
    · simp [stacked, hcall, hfailure]
    · -- what could not be unmounted is told to be unmounted only where nothing is mounted
      have hat : ¬1 ≤ m.depth c.target := fun hdepth ↦ hfailure (hm (hasMountAt_iff.2 hdepth))
      simp [stacked, hcall, hfailure]
      omega
  | unremoved hcall hat hm => simp [stacked, hcall, hm]

theorem Effect.depth_apart (h : Effect m c result m') (hc : c.IsApart dir) :
    m'.depth dir = m.depth dir := by
  cases h with
  | added hcall hm hp =>
    simp [depth, List.countP_append, hc _ (MountPoint.isAt_of_path hp)]
  | unadded hcall hm => rfl
  | removed hcall hm => exact countP_eraseP_of_apart hc
  | unremoved hcall hat hm => rfl

section

variable {get : ω → MountMemory} {set : MountMemory → ω → ω} {h : Host ω}

theorem mounted_iff : (mounter get set).Mounted dir h ↔ 1 ≤ (get h.outside).depth dir := by
  rw [← hasMountAt_iff, ← Except.ok.injEq]
  rfl

variable (hget : ∀ m o, get (set m o) = m)

include hget

theorem effect_perform (c : MounterCall) :
    Effect (get h.outside) c ((c.perform (mounter get set)).outcome h).1
      (get ((c.perform (mounter get set)).outcome h).2.outside) := by
  cases hcall : c.mounts? with
  | some call =>
    have htarget := MounterCall.target_of_mounts? hcall
    rw [MounterCall.perform_of_mounts? _ hcall]
    cases hm : (get h.outside).mountFailure with
    | some text =>
      simpa [mounter, Host.onOutside, Action.atomically, mount, hm, hget] using
        Effect.unadded hcall hm
    | none =>
      simpa [mounter, Host.onOutside, Action.atomically, mount, hm, hget] using
        Effect.added (p := ⟨device (get h.outside).points call, call.target, call.fsType,
          call.options, 0, 0⟩) hcall hm htarget
  | none =>
    rw [MounterCall.perform_of_mounts?_none _ hcall]
    cases hat : (get h.outside).hasMountAt c.target with
    | false =>
      simpa [mounter, Host.onOutside, Action.atomically, unmount, hat, hget] using
        Effect.removed (m := get h.outside) hcall (by simp [hat])
    | true =>
      cases hm : (get h.outside).unmountFailure with
      | none =>
        simpa [mounter, Host.onOutside, Action.atomically, unmount, hat, hm, hget]
          using Effect.removed (m := get h.outside) hcall fun _ ↦ hm
      | some text =>
        simpa [mounter, Host.onOutside, Action.atomically, unmount, hat, hm, hget]
          using Effect.unremoved hcall hat hm

theorem depth_performed (calls : List MounterCall)
    (hcalls : ∀ c ∈ calls, c.target = dir ∨ c.IsApart dir) :
    (get ((mounter get set).performed calls h).outside).depth dir =
      calls.foldl (stacked dir (get h.outside)) ((get h.outside).depth dir) := by
  induction calls generalizing h with
  | nil => rfl
  | cons c calls ih =>
    obtain ⟨hc, hcalls⟩ := List.forall_mem_cons.1 hcalls
    have heffect := effect_perform hget (h := h) c
    have hsame : stacked dir (get ((c.perform (mounter get set)).outcome h).2.outside) =
        stacked dir (get h.outside) := by
      funext n c
      simp [stacked, heffect.failures]
    have hdepth : (get ((c.perform (mounter get set)).outcome h).2.outside).depth dir =
        stacked dir (get h.outside) ((get h.outside).depth dir) c := by
      rcases hc with hc | hc
      · exact heffect.depth_at hc
      · rw [heffect.depth_apart hc, stacked, if_neg hc.ne]
    rw [List.foldl_cons, ← hdepth, ← hsame]
    exact ih hcalls

theorem depth_published {directory : Path} {n : Nat} {h' : Host ω}
    (hpublished : Node.Published directory (mounter get set) target n h h') :
    (get h'.outside).depth target = (get h.outside).depth target + n := by
  induction hpublished with
  | none h => rfl
  | @again n h h' r hbefore htarget hok ih =>
    obtain ⟨c, files, hc, hmounts, hok, houtside⟩ := Node.mounts_of_publish_ok hok
    obtain ⟨call, hcall⟩ := Option.isSome_iff_exists.1 hmounts
    have heffect := effect_perform hget (h := { h' with files }) c
    rw [hok] at heffect
    rw [houtside, ← htarget, ← hc, heffect.depth_added hcall, hc, htarget, ih, Nat.add_assoc]

theorem depth_unpublished {r : UnpublishRequest}
    (hok : ((Node.unpublish (mounter get set) r).outcome h).1 = .ok ()) :
    (get ((Node.unpublish (mounter get set) r).outcome h).2.outside).depth r.target =
      (get h.outside).depth r.target - 1 := by
  obtain ⟨hok, houtside⟩ := Node.unmounts_of_unpublish_ok hok
  have heffect := effect_perform hget (h := h) (.unmount r.target)
  rw [MounterCall.perform, hok] at heffect
  rw [houtside]
  exact heffect.depth_removed rfl

/-- Mounts pile up. After any calls, a directory is as deep as the calls there made it; one more mount is
entered, mounted or not, unless mounts fail; an unmounting that succeeds leaves a directory mounted where
two entries were; and so does the end of any number of publications, where these and the entries before
them are two at least. -/
theorem mounts_stack (h : Host ω) (calls : List MounterCall) (target : Path) {before : Host ω}
    (hbefore : (mounter get set).performed calls h = before) :
    ((∀ c ∈ calls, c.target = target ∨ c.IsApart target) →
      ((mounter get set).Mounted target before ↔
        1 ≤ calls.foldl (stacked target (get h.outside)) ((get h.outside).depth target))) ∧
    (∀ c : MounterCall, (c.mounts?).isSome = true →
      (((c.perform (mounter get set)).outcome before).1 = .ok () ↔
        (get before.outside).mountFailure = none) ∧
      ((get ((c.perform (mounter get set)).outcome before).2.outside).points =
        (get before.outside).points ↔ (get before.outside).mountFailure ≠ none)) ∧
    ((((mounter get set).unmount target).outcome before).1 = .ok () →
      ((mounter get set).Mounted target (((mounter get set).unmount target).outcome before).2 ↔
        2 ≤ (get before.outside).depth target)) ∧
    ∀ (directory : Path) (n : Nat) (after : Host ω) (r : UnpublishRequest), r.target = target →
      Node.Published directory (mounter get set) target n before after →
      ((Node.unpublish (mounter get set) r).outcome after).1 = .ok () →
      ((mounter get set).Mounted target ((Node.unpublish (mounter get set) r).outcome after).2 ↔
        2 ≤ (get before.outside).depth target + n) := by
  refine ⟨?_, ?_, ?_, ?_⟩
  · intro hcalls
    rw [mounted_iff, ← hbefore, depth_performed hget calls hcalls]
  · intro c hmounts
    obtain ⟨call, hcall⟩ := Option.isSome_iff_exists.1 hmounts
    exact (effect_perform hget c).ok_iff hcall
  · intro hok
    have heffect := effect_perform hget (h := before) (.unmount target)
    rw [MounterCall.perform, hok] at heffect
    have hdepth := heffect.depth_removed rfl
    rw [MounterCall.target] at hdepth
    rw [mounted_iff, hdepth]
    omega
  · intro directory n after r htarget hpublished hok
    subst htarget
    rw [mounted_iff, depth_unpublished hget hok, depth_published hget hpublished]
    omega

end

def dataRequest : PublishRequest where
  volumeId := "a"
  target := "/data"
  capability := ⟨.singleNodeWriter, .mount none []⟩
  readonly := false
  secrets := Validation.adminSecrets
  context := ∅

theorem mounts_stack_of_two :
    ∃ published unpublished : Host MountMemory,
      Node.Published "/kmip" (mounter id fun m _ ↦ m) "/data" 2 ⟨{}, {}⟩ published ∧
      (Node.unpublish (mounter id fun m _ ↦ m) ⟨"a", "/data"⟩).outcome published =
        (.ok (), unpublished) ∧
      (mounter id fun m _ ↦ m).Mounted "/data" unpublished := by
  have hnone : Node.Published "/kmip" (mounter id fun m _ ↦ m) "/data" 0
      (⟨{}, {}⟩ : Host MountMemory) ⟨{}, {}⟩ := .none _
  have hpublished := (hnone.again (r := dataRequest) rfl (by decide +kernel)).again
    (r := dataRequest) rfl (by decide +kernel)
  obtain ⟨-, -, -, hunpublish⟩ := @mounts_stack _ id (fun m _ ↦ m) (fun _ _ ↦ rfl)
    ⟨{}, {}⟩ [] "/data" _ rfl
  have hok : ((Node.unpublish (mounter id fun m _ ↦ m) ⟨"a", "/data"⟩).outcome
      ((Node.publish "/kmip" (mounter id fun m _ ↦ m) dataRequest).outcome
        ((Node.publish "/kmip" (mounter id fun m _ ↦ m) dataRequest).outcome ⟨{}, {}⟩).2).2).1 =
      .ok () := by
    decide +kernel
  exact ⟨_, _, hpublished, Prod.ext hok rfl, (hunpublish _ _ _ _ rfl hpublished hok).2 (by decide)⟩

/-- A second mount at a mounted directory changes the table, and then unmounting leaves it mounted. -/
theorem unmounts_first_only :
    ∃ once twice unmounted : Host MountMemory, ∃ call : MountCall,
      ((mounter id fun m _ ↦ m).mount call).outcome ⟨{}, {}⟩ = (.ok (), once) ∧
      (mounter id fun m _ ↦ m).Mounted call.target once ∧
      ((mounter id fun m _ ↦ m).mount call).outcome once = (.ok (), twice) ∧
      twice.outside.points ≠ once.outside.points ∧
      ((mounter id fun m _ ↦ m).unmount call.target).outcome twice = (.ok (), unmounted) ∧
      (mounter id fun m _ ↦ m).Mounted call.target unmounted := by
  refine ⟨_, _, _, ⟨"panfs://192.0.2.1/a", "/data", "panfs", []⟩, rfl, ?_, rfl, ?_, rfl, ?_⟩
  · exact mounted_iff.2 (by decide +kernel)
  · exact fun h ↦ absurd (congrArg List.length h) (by decide +kernel)
  · exact mounted_iff.2 (by decide +kernel)

end MountMemory

end RealmDriver
