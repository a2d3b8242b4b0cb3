import RealmDriver.Proofs.Controller.Veil
import RealmDriver.Proofs.Service.Refusal

namespace RealmDriver

variable {σ σ' ω ω' α : Type} {p : Prop}

theorem Blames.status_agree {x : Except Status α} (h : Blames Status.code x) :
    ∀ status, x = .error status → status.Agree p status :=
  fun status hstatus ↦ ⟨rfl, fun hinternal ↦ absurd ((h status hstatus).symm.trans hinternal) (by decide)⟩

theorem ValidateRequest.of_ofMessage_ok {m : ValidateMessage} {r : ValidateRequest}
    (h : ofMessage m = .ok r) : r.volumeId = m.volumeId ∧ r.secrets = m.secrets := by
  simp only [ofMessage, Except.guard_ok_iff, Except.bind_ok_iff] at h
  obtain ⟨-, -, capabilities, -, hr⟩ := h
  cases hr
  exact ⟨rfl, rfl⟩

/-- The realm's words that the answer to a call is to repeat. -/
def Call.repeated (realm : Realm σ) (s : σ) : Call → Option String
  | .validate m => RealmError.text? ((realm.lookup m.volumeId m.secrets).outcome s).1
  | _ => none

theorem Service.respond_coupled {R : σ → σ' → Prop} {ρ : Type} {request : Except Status ρ}
    {handler : ρ → Action σ Failure α} {handler' : ρ → Action σ' Failure α}
    {reply : α → Except Status Reply} {warnings : α → List Warning} {s : σ} {s' : σ'}
    (hrequest : Blames Status.code request) (hs : R s s')
    (hhandler : ∀ r, request = .ok r →
      Action.Coupled R (Failure.Agree p) Eq ((handler r).outcome s) ((handler' r).outcome s'))
    (hreply : ∀ a status, reply a = .error status → status.Agree p status) :
    Action.Coupled R (Status.Agree p) Eq
      ((respond request handler reply warnings s).map Answer.result id)
      ((respond request handler' reply warnings s').map Answer.result id) := by
  cases request with
  | error status => exact ⟨.error (hrequest.status_agree status rfl), hs⟩
  | ok r =>
    obtain ⟨hresult, hstate⟩ := hhandler r rfl
    rcases houtcome : (handler r).outcome s with ⟨x, t⟩
    rcases houtcome' : (handler' r).outcome s' with ⟨x', t'⟩
    simp only [respond, houtcome, houtcome']
    rw [houtcome, houtcome'] at hresult hstate
    cases hresult with
    | error hagree => exact ⟨.error hagree, hstate⟩
    | ok hvalue =>
      subst hvalue
      exact ⟨.of_eq rfl (hreply _), hstate⟩

namespace Plugin

variable {mode : Mode} {call : Call} {realm : Realm (Host ω)} {realm' : Realm (Host ω')}
  {R : Host ω → Host ω' → Prop}

def OnHosts (R : Host ω → Host ω' → Prop) (t : Readiness × Host ω) (t' : Readiness × Host ω') : Prop :=
  R t.2 t'.2

theorem onHost_coupled {a : Action (Host ω) Failure α} {a' : Action (Host ω') Failure α}
    {t : Readiness × Host ω} {t' : Readiness × Host ω'}
    (h : Action.Coupled R (Failure.Agree p) Eq (a.outcome t.2) (a'.outcome t'.2)) :
    Action.Coupled (OnHosts R) (Failure.Agree p) Eq ((onHost a).outcome t) ((onHost a').outcome t') := by
  rw [onHost, onHost, Action.outcome_on, Action.outcome_on]
  exact ⟨h.result, h.state⟩

variable (settings : PluginSettings) (mounter : Mounter ω) (mounter' : Mounter ω')
  (annotator : Annotator (Host ω)) (annotator' : Annotator (Host ω')) {t : Readiness × Host ω}
  {t' : Readiness × Host ω'}

theorem handle_coupled (h : realm.Alike R realm') (hmode : mode.servesController = true)
    (hcall : call.OnVolumes) (ht : OnHosts R t t') :
    Action.Coupled (OnHosts R)
      (Status.Agree (call.repeated realm t.2 = call.repeated realm' t'.2)) Eq
      (((service settings realm mounter annotator).handle mode call t).map Answer.result id)
      (((service settings realm' mounter' annotator').handle mode call t').map Answer.result id) := by
  cases hcall with
  | create m =>
    simp only [Service.handle, Call.isServed, hmode, Call.repeated]
    apply Service.respond_coupled (CreateRequest.ofMessage_blames m) ht
    · intro r _
      exact onHost_coupled (Creation.run_paired h r _ _ ht)
    · intro _ status _
      exact status.agree_self
  | delete m =>
    simp only [Service.handle, Call.isServed, hmode, Call.repeated]
    apply Service.respond_coupled (DeleteRequest.ofMessage_blames m) ht
    · intro r _
      exact onHost_coupled (Controller.delete_coupled h ht r)
    · intro _ status _
      exact status.agree_self
  | validate m =>
    simp only [Service.handle, Call.isServed, hmode, Call.repeated]
    apply Service.respond_coupled (ValidateRequest.ofMessage_blames m) ht
    · intro r hr
      obtain ⟨hname, hsecrets⟩ := ValidateRequest.of_ofMessage_ok hr
      rw [← hname, ← hsecrets]
      exact onHost_coupled (Controller.validate_coupled h ht r)
    · intro _ _ hreply
      cases hreply
  | expand m =>
    simp only [Service.handle, Call.isServed, hmode, Call.repeated]
    apply Service.respond_coupled (ExpandRequest.ofMessage_blames m) ht
    · intro r _
      exact onHost_coupled (Controller.expand_coupled h ht r)
    · intro _ status _
      exact status.agree_self

/-- At two realms that differ in nothing but the words of their failures, a call on volumes is replied to
alike, or refused with one code. An inner failure is told in the same words, unless they are the realm's
own: that is so for a validation, and for no other call. -/
theorem handle_internal_iff (h : realm.Alike R realm') (hmode : mode.servesController = true)
    (hcall : call.OnVolumes) (ht : OnHosts R t t') :
    let answer := (service settings realm mounter annotator).handle mode call t
    let answer' := (service settings realm' mounter' annotator').handle mode call t'
    OnHosts R answer.2 answer'.2 ∧
    (∀ reply, answer.1.result = .ok reply ↔ answer'.1.result = .ok reply) ∧
    ∀ status status', answer.1.result = .error status → answer'.1.result = .error status' →
      status.code = status'.code ∧
      (status.code = .internal →
        (status = status' ↔ call.repeated realm t.2 = call.repeated realm' t'.2)) := by
  intro answer answer'
  obtain ⟨hresult, hstate⟩ :=
    handle_coupled settings mounter mounter' annotator annotator' h hmode hcall ht
  change Matching _ _ answer.1.result answer'.1.result at hresult
  generalize answer.1.result = x at hresult ⊢
  generalize answer'.1.result = x' at hresult ⊢
  refine ⟨hstate, ?_, ?_⟩
  · intro reply
    cases hresult with
    | ok hreply => rw [hreply]
    | error _ => simp
  · rintro status status' rfl rfl
    cases hresult with
    | error hagree => exact ⟨hagree.code, hagree.internal⟩

def answering (text : String) : Readiness × MemoryHost := ({}, ⟨{}, { failure := some text }, {}⟩)

def reset : Readiness × MemoryHost := answering "connection to 10.0.0.1 was reset"

def closed : Readiness × MemoryHost := answering "connection to 10.0.0.2 was closed"

theorem reset_alike : RealmMemory.Alike (memory reset.2) (memory closed.2) := by
  have hreset : classify "connection to 10.0.0.1 was reset" =
      .error ⟨.internal, "connection to 10.0.0.1 was reset"⟩ := by
    decide +kernel
  have hclosed : classify "connection to 10.0.0.2 was closed" =
      .error ⟨.internal, "connection to 10.0.0.2 was closed"⟩ := by
    decide +kernel
  refine ⟨rfl, rfl, ?_⟩
  change Matching _ _ (classify "connection to 10.0.0.1 was reset")
    (classify "connection to 10.0.0.2 was closed")
  rw [hreset, hclosed]
  exact .error rfl

def removal : DeleteMessage := ⟨"a", Validation.adminSecrets⟩

def validation : ValidateMessage where
  volumeId := "a"
  capabilities := [⟨some 1, some (.mount {})⟩]
  secrets := Validation.adminSecrets

theorem realm_alike : (RealmMemory.realm.within memory setMemory).Alike
    (fun host host' ↦ (memory host).Alike (memory host')) (RealmMemory.realm.within memory setMemory) :=
  RealmMemory.realm_alike.within memory_setMemory memory_setMemory

theorem handle_internal_iff_of_deletion : ∃ status, status.code = .internal ∧
    (inMemory.handle .all (.delete removal) reset).1.result = .error status ∧
    (inMemory.handle .all (.delete removal) closed).1.result = .error status := by
  have hmode : Mode.all.servesController = true := rfl
  have hreset : (inMemory.handle .all (.delete removal) reset).1.result =
      .error ⟨.internal, "DeleteVolume failed: internal error from the realm"⟩ := rfl
  obtain ⟨-, hreplies, hstatuses⟩ := handle_internal_iff ⟨"panfs", "node", "ready", "/tmp"⟩
    (MountMemory.mounter Prod.snd fun m o ↦ (o.1, m)) (MountMemory.mounter Prod.snd fun m o ↦ (o.1, m))
    .idle .idle realm_alike hmode (.delete removal) reset_alike
  refine ⟨_, rfl, hreset, ?_⟩
  rcases hclosed : (inMemory.handle .all (.delete removal) closed).1.result with status | reply
  · have hsame := ((hstatuses _ status hreset hclosed).2 rfl).2 rfl
    rw [hsame]
  · cases hreset.symm.trans ((hreplies reply).2 hclosed)

/-- Whoever asks how a volume can be used is told what happened, and where. -/
theorem validation_tells_words :
    (memory reset.2).Alike (memory closed.2) ∧
    (inMemory.handle .all (.validate validation) reset).1.result =
      .error ⟨.internal, "internal: connection to 10.0.0.1 was reset"⟩ ∧
    (inMemory.handle .all (.validate validation) closed).1.result =
      .error ⟨.internal, "internal: connection to 10.0.0.2 was closed"⟩ := by
  refine ⟨reset_alike, ?_, ?_⟩
  · rfl
  · rfl

end Plugin

end RealmDriver
