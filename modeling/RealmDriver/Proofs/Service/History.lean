import Mathlib.Logic.Relation
import RealmDriver.Proofs.Creation.Quotas
import RealmDriver.Proofs.Service.Refusal
import RealmDriver.Proofs.Volume.Request

namespace RealmDriver

variable {σ ω : Type}

namespace Service

section

variable (service : Service σ) (mode : Mode) (allowed : Call → Prop) (others : σ → σ → Prop)

/-- A call that the service gets, or something that happens around it. -/
inductive Step : σ → σ → Prop
  | call {c : Call} (hc : allowed c) (s : σ) : Step s (service.handle mode c s).2
  | other {s s' : σ} (hs : others s s') : Step s s'

abbrev Run : σ → σ → Prop := Relation.ReflTransGen (Step service mode allowed others)

end

variable {service : Service σ} {mode : Mode} {allowed : Call → Prop} {others : σ → σ → Prop}

theorem Run.invariant {P : σ → Prop}
    (hcall : ∀ c, allowed c → ∀ s, Keeping P s (service.handle mode c s).2)
    (hother : ∀ s s', others s s' → Keeping P s s') {s s' : σ}
    (hrun : Run service mode allowed others s s') (h : P s) : P s' := by
  induction hrun with
  | refl => exact h
  | tail _ hstep ih =>
    cases hstep with
    | call hc => exact hcall _ hc _ ih
    | other hs => exact hother _ _ hs ih

theorem respond_within {ρ α : Type} {R : σ → σ → Prop} [Std.Refl R] {request : Except Status ρ}
    {handler : ρ → Action σ Failure α} {reply : α → Except Status Reply}
    {warnings : α → List Warning} (hhandler : ∀ r, request = .ok r → (handler r).Within R) (s : σ) :
    R s (respond request handler reply warnings s).2 := by
  cases request with
  | error status => exact refl s
  | ok r =>
    have hwithin := hhandler r rfl s
    rcases houtcome : (handler r).outcome s with ⟨f | a, s'⟩
    · rw [houtcome] at hwithin
      simpa only [respond, houtcome] using hwithin
    · rw [houtcome] at hwithin
      simpa only [respond, houtcome] using hwithin

theorem handle_of_not_served {call : Call} (h : call.isServed mode = false) (s : σ) :
    (service.handle mode call s).2 = s := by
  simp only [handle, h]
  rfl

end Service

namespace Call

def volume? : Call → Option String
  | .create m => some m.name
  | .delete m => some m.volumeId
  | .validate m => some m.volumeId
  | .expand m => some m.volumeId
  | _ => none

end Call

theorem Call.OnVolumes.isServed {mode : Mode} {call : Call} (h : call.OnVolumes) :
    call.isServed mode = mode.servesController := by
  cases h <;> rfl

theorem Controller.checkExpand_isAmount {r : ExpandRequest} (h : checkExpand r = .ok ()) :
    (Quota.ofBytes r.capacity.required.toInt).IsAmount := by
  simp only [checkExpand, Except.bind_ok_iff] at h
  obtain ⟨⟨⟩, -, h⟩ := h
  split at h
  · cases h
  · rename_i hpos
    rw [Int64.le_iff_toInt_le, Int64.toInt_zero, not_le] at hpos
    have hlt := Int64.toInt_lt r.capacity.required
    lift r.capacity.required.toInt to Nat using hpos.le with bytes
    exact Quota.ofBytes_isAmount (by omega)

/-- A call on volumes whose parameters set no quotas of their own. -/
def Call.IsPlain (call : Call) : Prop :=
  call.OnVolumes ∧ ∀ m, call = .create m → ∀ b : Bound, m.parameters[b.key]? = none

namespace Plugin

variable {get : Host ω → RealmMemory} {set : RealmMemory → Host ω → Host ω} {mode : Mode}

theorem on_stored {α ε : Type} {P : String → VolumeRecord → Prop}
    (hset : ∀ m host, (get (set m host)).volumes = m.volumes) {a : Action RealmMemory ε α}
    (ha : a.Within (Keeping (RealmMemory.Stored P))) :
    (a.on get set).Within (Keeping (RealmMemory.Stored P ∘ get)) := by
  refine ha.on ?_
  intro host m hkeeps hstored
  exact RealmMemory.stored_of_volumes_eq (hset m host) (hkeeps hstored)

section

variable {R : Host ω → Host ω → Prop} {realm : Realm (Host ω)} {call : Call}

def OnHost (R : Host ω → Host ω → Prop) (t t' : Readiness × Host ω) : Prop := R t.2 t'.2

instance [Std.Refl R] : Std.Refl (OnHost R) := ⟨fun t ↦ refl t.2⟩

theorem onHost_within {α : Type} {a : Action (Host ω) Failure α} (ha : a.Within R) :
    (onHost a).Within (OnHost R) :=
  ha.on fun _ _ hrelated ↦ hrelated

/-- What a call on volumes does to the host is what the realm does that it is about. -/
theorem handle_within [Std.Refl R] [IsTrans (Host ω) R] (settings : PluginSettings)
    (mounter : Mounter ω) (annotator : Annotator (Host ω)) (hcall : call.OnVolumes)
    (hcreate : ∀ m r, call = .create m → CreateRequest.ofMessage m = .ok r → Creation.check r = .ok () →
      (realm.create r.name (Creation.parameters r.parameters r.capacity) r.secrets).Within R)
    (hdelete : ∀ name secrets, call.volume? = some name → name ≠ "" → (realm.delete name secrets).Within R)
    (hlookup : ∀ name secrets, call.volume? = some name → name ≠ "" → (realm.lookup name secrets).Within R)
    (hexpand : ∀ m r, call = .expand m → ExpandRequest.ofMessage m = .ok r →
      Controller.checkExpand r = .ok () →
      (realm.expand r.volumeId r.capacity.required.toInt r.secrets).Within R)
    (t : Readiness × Host ω) :
    OnHost R t ((service settings realm mounter annotator).handle mode call t).2 := by
  cases hmode : mode.servesController with
  | false =>
    rw [Service.handle_of_not_served (hcall.isServed.trans hmode)]
    exact refl t
  | true =>
    cases hcall with
    | create m =>
      simp only [Service.handle, Call.isServed, hmode]
      apply Service.respond_within
      intro r hr
      have hcreate := hcreate m r rfl hr
      obtain ⟨hne, -, cs, -, source, -, rfl⟩ := CreateRequest.ofMessage_ok_iff.1 hr
      apply onHost_within
      exact Creation.run_within hcreate (hlookup _ _ rfl hne)
    | delete m =>
      simp only [Service.handle, Call.isServed, hmode]
      apply Service.respond_within
      intro r hr
      obtain ⟨hne, rfl⟩ := DeleteRequest.ofMessage_ok_iff.1 hr
      apply onHost_within
      exact Controller.guarded_within fun _ ↦ hdelete _ _ rfl hne
    | validate m =>
      simp only [Service.handle, Call.isServed, hmode]
      apply Service.respond_within
      intro r hr
      obtain ⟨hne, -, cs, -, rfl⟩ := ValidateRequest.ofMessage_ok_iff.1 hr
      apply onHost_within
      exact Controller.guarded_within fun _ ↦ hlookup _ _ rfl hne
    | expand m =>
      simp only [Service.handle, Call.isServed, hmode]
      apply Service.respond_within
      intro r hr
      apply onHost_within
      exact Controller.guarded_within (hexpand m r rfl hr)

end

theorem handle_keeping (settings : PluginSettings) (mounter : Mounter ω)
    (annotator : Annotator (Host ω)) (hset : ∀ m host, (get (set m host)).volumes = m.volumes)
    {call : Call} (hcall : call.IsPlain) (t : Readiness × Host ω) :
    Keeping ((RealmMemory.Sound ∘ get) ∘ Prod.snd) t
      ((service settings (RealmMemory.realm.within get set) mounter annotator).handle mode call
        t).2 := by
  obtain ⟨hvolumes, hparameters⟩ := hcall
  apply handle_within (R := Keeping (RealmMemory.Sound ∘ get)) settings mounter annotator hvolumes
  · intro m r hm hr hcheck
    have hkeys := hparameters m hm
    obtain ⟨-, -, cs, -, source, -, rfl⟩ := CreateRequest.ofMessage_ok_iff.1 hr
    exact on_stored (P := VolumeRecord.Sound) hset
      (RealmMemory.create_keeping (Creation.inOrder_parameters hcheck hkeys))
  · exact fun _ _ _ _ ↦ on_stored (P := VolumeRecord.Sound) hset RealmMemory.delete_keeping
  · exact fun _ _ _ _ ↦ on_stored (P := VolumeRecord.Sound) hset RealmMemory.lookup_keeping
  · intro m r _ _ hcheck
    exact on_stored (P := VolumeRecord.Sound) hset
      (RealmMemory.expand_keeping (Controller.checkExpand_isAmount hcheck))

/-- Any calls on volumes in any order, and between them, or between two calls of the driver on the realm,
anything that leaves the volumes alone: a failure that comes or goes, say. Starting without volumes, what
is stored is sound ever after; and a listing that succeeds holds just that, by name. -/
theorem volumes_sound (settings : PluginSettings) (mounter : Mounter ω)
    (annotator : Annotator (Host ω)) (hset : ∀ m host, (get (set m host)).volumes = m.volumes)
    {t t' : Readiness × Host ω}
    (hrun : Service.Run (service settings (RealmMemory.realm.within get set) mounter annotator) mode
      Call.IsPlain (fun t t' ↦ (get t'.2).volumes = (get t.2).volumes) t t')
    (hempty : (get t.2).volumes = ∅) :
    (get t'.2).Sound ∧ ∀ secrets records,
      (((RealmMemory.realm.within get set).list secrets).outcome t'.2).1 = .ok records →
        (records.map VolumeRecord.name).Pairwise (· < ·) ∧
        ∀ record, record ∈ records ↔ ∃ key : String, (get t'.2).volumes[key]? = some record := by
  have hsound : (get t'.2).Sound := by
    apply hrun.invariant (P := (RealmMemory.Sound ∘ get) ∘ Prod.snd)
    · intro call hcall t
      exact handle_keeping settings mounter annotator hset hcall t
    · intro t t' hsame
      exact RealmMemory.sound_of_volumes_eq hsame
    · exact RealmMemory.sound_of_empty hempty
  refine ⟨hsound, ?_⟩
  intro secrets records hlist
  have hvalues := RealmMemory.of_list_ok hlist
  subst hvalues
  exact ⟨hsound.names_pairwise, fun _ ↦ RealmMemory.mem_values⟩

def failing (failure : Option String) (t : Readiness × MemoryHost) : Readiness × MemoryHost :=
  (t.1, setMemory { memory t.2 with failure } t.2)

theorem failing_volumes (failure : Option String) (t : Readiness × MemoryHost) :
    (memory (failing failure t).2).volumes = (memory t.2).volumes := rfl

def vacant : Readiness × MemoryHost := ({}, ⟨{}, {}, {}⟩)

def creation : CreateMessage where
  name := "/a"
  capacity := some ⟨10737418240, 21474836480⟩
  secrets := Validation.adminSecrets
  capabilities := [⟨some 1, some (.mount {})⟩]

def deletion : DeleteMessage := ⟨"a", Validation.adminSecrets⟩

def expansion : ExpandMessage := ⟨"a", some ⟨32212254720, 0⟩, Validation.adminSecrets, none⟩

def created : Readiness × MemoryHost := (inMemory.handle .all (.create creation) vacant).2

def kept : Readiness × MemoryHost :=
  (inMemory.handle .all (.delete deletion) (failing (some "Error") created)).2

def grown : Readiness × MemoryHost :=
  (inMemory.handle .all (.expand expansion) (failing none kept)).2

abbrev Happens : Readiness × MemoryHost → Readiness × MemoryHost → Prop :=
  Service.Step inMemory .all Call.IsPlain fun t t' ↦ (memory t'.2).volumes = (memory t.2).volumes

theorem volumes_sound_of_growth :
    (memory grown.2).Sound ∧
      ((memory grown.2).volumes["a"]?.map fun record ↦ (record.softBytes, record.hardBytes)) =
        some (32212254720, 32212254720) := by
  have hcreation : Call.IsPlain (.create creation) := by
    refine ⟨.create _, ?_⟩
    rintro _ ⟨⟩ b
    exact Std.ExtTreeMap.getElem?_empty
  have hdeletion : Call.IsPlain (.delete deletion) := ⟨.delete _, nofun⟩
  have hexpansion : Call.IsPlain (.expand expansion) := ⟨.expand _, nofun⟩
  have hcreate : Happens vacant created := .call hcreation _
  have hfail : Happens created (failing (some "Error") created) := .other (failing_volumes _ _)
  have hdelete : Happens (failing (some "Error") created) kept := .call hdeletion _
  have hmend : Happens kept (failing none kept) := .other (failing_volumes _ _)
  have hexpand : Happens (failing none kept) grown := .call hexpansion _
  have hrun := ((((Relation.ReflTransGen.single hcreate).tail hfail).tail hdelete).tail hmend).tail
    hexpand
  have hsound := volumes_sound ⟨"panfs", "node", "ready", "/tmp"⟩
    (MountMemory.mounter Prod.snd fun m o ↦ (o.1, m)) .idle
    (fun m host ↦ congrArg RealmMemory.volumes (memory_setMemory m host)) hrun rfl
  exact ⟨hsound.1, by decide +kernel⟩

end Plugin

end RealmDriver
