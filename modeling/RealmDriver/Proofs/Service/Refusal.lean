import RealmDriver.Mount.Memory
import RealmDriver.Proofs.Controller.Refusal
import RealmDriver.Proofs.Realm.Memory

namespace RealmDriver

variable {σ τ ω ε α β : Type} {code : ε → Code} {count : σ → Nat}

def More (count : σ → Nat) (s s' : σ) : Prop := count s < count s'

namespace Realm

structure Counts (count : σ → Nat) (realm : Realm σ) : Prop where
  create : ∀ name parameters secrets, (realm.create name parameters secrets).Within (More count)
  delete : ∀ name secrets, (realm.delete name secrets).Within (More count)
  expand : ∀ name bytes secrets, (realm.expand name bytes secrets).Within (More count)
  lookup : ∀ name secrets, (realm.lookup name secrets).Within (More count)

theorem Counts.within {realm : Realm σ} {get : τ → σ} {set : σ → τ → τ}
    (hget : ∀ s t, get (set s t) = s) (h : Counts count realm) :
    Counts (count ∘ get) (realm.within get set) := by
  have hset : ∀ t s, More count (get t) s → More (count ∘ get) t (set s t) := by
    intro t s hs
    simpa [More, hget] using hs
  constructor
  · exact fun name parameters secrets ↦ (h.create name parameters secrets).on hset
  · exact fun name secrets ↦ (h.delete name secrets).on hset
  · exact fun name bytes secrets ↦ (h.expand name bytes secrets).on hset
  · exact fun name secrets ↦ (h.lookup name secrets).on hset

end Realm

theorem RealmMemory.counts : Realm.Counts RealmMemory.calls RealmMemory.realm := by
  constructor
  · intro name parameters _ m
    simp only [realm, create_outcome]
    cases m.created name parameters <;> exact Nat.lt_succ_self _
  · intro name _ m
    simp only [realm, delete_outcome]
    split <;> exact Nat.lt_succ_self _
  · intro name bytes _ m
    simp only [realm, expand_outcome]
    split <;> exact Nat.lt_succ_self _
  · intro name _ m
    simp only [realm, lookup_outcome]
    exact Nat.lt_succ_self _

/-- What can come of a request. Either it is to blame, and nothing has happened, or something has been
counted, and it is not to blame. -/
inductive Handled (code : ε → Code) (count : σ → Nat) (s : σ) : Except ε α × σ → Prop
  | refused {e : ε} (he : code e = .invalidArgument) : Handled code count s (.error e, s)
  | called {answer : Except ε α} {s' : σ} (hcount : More count s s') (hspares : Spares code answer) :
    Handled code count s (answer, s')

namespace Controller

variable {call : Action σ RealmError α} {checked : Except Failure Unit}
  {after : Except RealmError α → Except Failure β}

theorem guarded_handled (hchecked : Blames Failure.code checked) (hcall : call.Within (More count))
    (hafter : ∀ answer, Spares Failure.code (after answer)) (s : σ) :
    Handled Failure.code count s ((guarded checked call after).outcome s) := by
  cases checked with
  | error f =>
    rw [guarded_refused]
    exact .refused (hchecked f rfl)
  | ok =>
    rw [guarded_admitted]
    exact .called (hcall s) (hafter _)

variable {realm : Realm σ} (hrealm : realm.Counts count) (s : σ)
include hrealm

theorem delete_handled (r : DeleteRequest) :
    Handled Failure.code count s ((delete realm r).outcome s) := by
  rw [delete_eq]
  exact guarded_handled (checkCredentials_blames _) (hrealm.delete _ _) afterDelete_spares s

theorem validate_handled (r : ValidateRequest) :
    Handled Failure.code count s ((validate realm r).outcome s) := by
  rw [validate_eq]
  exact guarded_handled (checkValidate_blames r) (hrealm.lookup _ _) (afterLookup_spares r) s

theorem expand_handled (r : ExpandRequest) :
    Handled Failure.code count s ((expand realm r).outcome s) := by
  rw [expand_eq]
  exact guarded_handled (checkExpand_blames r) (hrealm.expand _ _ _) (afterExpand_spares r) s

end Controller

theorem Creation.run_handled {realm : Realm σ} (hrealm : realm.Counts count) (r : CreateRequest)
    (s : σ) : Handled Failure.code count s ((run realm r).outcome s) := by
  cases hcheck : check r with
  | error f =>
    rw [run_refused realm s hcheck]
    exact .refused (check_blames r f hcheck)
  | ok =>
    have hfirst := hrealm.create r.name (parameters r.parameters r.capacity) r.secrets s
    rw [run_outcome realm s hcheck]
    dsimp only
    split
    · exact .called hfirst (afterCreate_spares ‹_›)
    · -- the volume was there already, so the realm was asked twice
      have hsecond := hrealm.lookup r.name r.secrets
      exact .called (Nat.lt_trans hfirst (hsecond _)) (afterLookup_spares r _)

theorem Plugin.onHost_handled {count : Host ω → Nat} {a : Action (Host ω) Failure α}
    (h : ∀ host, Handled Failure.code count host (a.outcome host)) (t : Readiness × Host ω) :
    Handled Failure.code (count ∘ Prod.snd) t ((onHost a).outcome t) := by
  have hhandled := h t.2
  rw [onHost, Action.outcome_on]
  generalize a.outcome t.2 = outcome at hhandled ⊢
  cases hhandled with
  | refused he => exact .refused he
  | called hcount hspares => exact .called hcount hspares

theorem Service.respond_handled {ρ : Type} {request : Except Status ρ}
    {handler : ρ → Action σ Failure α} {reply : α → Except Status Reply}
    {warnings : α → List Warning} (hrequest : Blames Status.code request)
    (hhandler : ∀ r s, Handled Failure.code count s ((handler r).outcome s))
    (hreply : ∀ a, Spares Status.code (reply a)) (s : σ) :
    Handled Status.code count s
      ((respond request handler reply warnings s).map Answer.result id) := by
  cases request with
  | error status => exact .refused (hrequest status rfl)
  | ok r =>
    have hhandled := hhandler r s
    rcases houtcome : (handler r).outcome s with ⟨f | a, s'⟩
    · simp only [respond, houtcome]
      rw [houtcome] at hhandled
      cases hhandled with
      | refused he => exact .refused he
      | called hcount hspares => exact .called hcount (.error (hspares f rfl))
    · simp only [respond, houtcome]
      rw [houtcome] at hhandled
      cases hhandled with
      | called hcount _ => exact .called hcount (hreply a)

def Answer.Refuses (a : Answer) : Prop :=
  ∃ status, a.result = .error status ∧ status.code = .invalidArgument

theorem Handled.refuses_iff {a : Answer} {s s' : σ}
    (h : Handled Status.code count s ((a, s').map Answer.result id)) :
    (a.Refuses ↔ count s' = count s) ∧ (a.Refuses → s' = s) ∧ (¬a.Refuses → count s < count s') := by
  obtain ⟨result, warnings⟩ := a
  cases h with
  | refused he =>
    have hrefuses : Answer.Refuses ⟨.error _, warnings⟩ := ⟨_, rfl, he⟩
    exact ⟨⟨fun _ ↦ rfl, fun _ ↦ hrefuses⟩, fun _ ↦ rfl, fun hnot ↦ absurd hrefuses hnot⟩
  | called hcount hspares =>
    have hnot : ¬Answer.Refuses ⟨result, warnings⟩ := by
      rintro ⟨status, hstatus, hcode⟩
      exact hspares status hstatus hcode
    exact ⟨⟨fun h ↦ absurd h hnot, fun h ↦ absurd h (Nat.ne_of_gt hcount)⟩, fun h ↦ absurd h hnot,
      fun _ ↦ hcount⟩

namespace Call

inductive OnVolumes : Call → Prop
  | create (m : CreateMessage) : OnVolumes (.create m)
  | delete (m : DeleteMessage) : OnVolumes (.delete m)
  | validate (m : ValidateMessage) : OnVolumes (.validate m)
  | expand (m : ExpandMessage) : OnVolumes (.expand m)

end Call

namespace Plugin

variable {mode : Mode} {call : Call} {realm : Realm (Host ω)} {count : Host ω → Nat}

theorem handle_handled (settings : PluginSettings) (mounter : Mounter ω)
    (annotator : Annotator (Host ω)) (hrealm : realm.Counts count)
    (hmode : mode.servesController = true) (hcall : call.OnVolumes) (t : Readiness × Host ω) :
    Handled Status.code (count ∘ Prod.snd) t
      (((service settings realm mounter annotator).handle mode call t).map Answer.result id) := by
  cases hcall with
  | create m =>
    simp only [Service.handle, Call.isServed, hmode]
    apply Service.respond_handled (CreateRequest.ofMessage_blames m)
    · intro r
      exact onHost_handled (Creation.run_handled hrealm r)
    · intro created
      exact (Volume.toMessage_spares _).map _
  | delete m =>
    simp only [Service.handle, Call.isServed, hmode]
    apply Service.respond_handled (DeleteRequest.ofMessage_blames m)
    · intro r
      exact onHost_handled fun host ↦ Controller.delete_handled hrealm host r
    · intro _
      exact .ok _
  | validate m =>
    simp only [Service.handle, Call.isServed, hmode]
    apply Service.respond_handled (ValidateRequest.ofMessage_blames m)
    · intro r
      exact onHost_handled fun host ↦ Controller.validate_handled hrealm host r
    · intro _
      exact .ok _
  | expand m =>
    simp only [Service.handle, Call.isServed, hmode]
    apply Service.respond_handled (ExpandRequest.ofMessage_blames m)
    · intro r
      exact onHost_handled fun host ↦ Controller.expand_handled hrealm host r
    · intro response
      exact (ExpandResponse.toMessage_spares response).map _

/-- A call on volumes is refused for its request just if it asked the realm for nothing, and then nothing
has changed. -/
theorem handle_refuses_iff (settings : PluginSettings) (mounter : Mounter ω)
    (annotator : Annotator (Host ω)) {get : Host ω → RealmMemory}
    {set : RealmMemory → Host ω → Host ω} (hget : ∀ m host, get (set m host) = m)
    (hmode : mode.servesController = true) (hcall : call.OnVolumes) (t : Readiness × Host ω) :
    let after := (service settings (RealmMemory.realm.within get set) mounter annotator).handle mode
      call t
    (after.1.Refuses ↔ (get after.2.2).calls = (get t.2).calls) ∧ (after.1.Refuses → after.2 = t) ∧
      (¬after.1.Refuses → (get t.2).calls < (get after.2.2).calls) :=
  (handle_handled settings mounter annotator (RealmMemory.counts.within hget) hmode hcall
    t).refuses_iff

abbrev MemoryHost : Type := Host (RealmMemory × MountMemory)

def memory (host : MemoryHost) : RealmMemory := host.outside.1

def setMemory (m : RealmMemory) (host : MemoryHost) : MemoryHost :=
  { host with outside := (m, host.outside.2) }

theorem memory_setMemory (m : RealmMemory) (host : MemoryHost) : memory (setMemory m host) = m := rfl

def inMemory : Service (Readiness × MemoryHost) :=
  service ⟨"panfs", "node", "ready", "/tmp"⟩ (RealmMemory.realm.within memory setMemory)
    (MountMemory.mounter Prod.snd fun m o ↦ (o.1, m)) .idle

def complaining : Readiness × MemoryHost := ({}, ⟨{}, { failure := some "Invalid string" }, {}⟩)

theorem handle_refuses_iff_of_complaint :
    let handle (m : DeleteMessage) := inMemory.handle .all (.delete m) complaining
    (handle {}).2 = complaining ∧ ¬(handle ⟨"a", Validation.adminSecrets⟩).1.Refuses := by
  intro handle
  have hmode : Mode.all.servesController = true := rfl
  have hiff := fun m ↦ handle_refuses_iff ⟨"panfs", "node", "ready", "/tmp"⟩
    (MountMemory.mounter Prod.snd fun m o ↦ (o.1, m)) .idle memory_setMemory hmode (.delete m)
    complaining
  have hunnamed : (handle {}).1.Refuses := ⟨_, rfl, rfl⟩
  have hcalls : (handle ⟨"a", Validation.adminSecrets⟩).2.2.outside.1.calls = 1 := by
    decide +kernel
  constructor
  · exact (hiff {}).2.1 hunnamed
  · intro hrefuses
    have hnone := (hiff ⟨"a", Validation.adminSecrets⟩).1.1 hrefuses
    exact absurd (hcalls.symm.trans hnone) (by decide)

end Plugin

end RealmDriver
