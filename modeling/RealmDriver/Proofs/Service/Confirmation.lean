import Mathlib.Tactic.IntervalCases
import RealmDriver.Proofs.Controller.Guarded
import RealmDriver.Proofs.Service.Refusal
import RealmDriver.Proofs.Volume.Request

namespace RealmDriver

namespace AccessMode

/-- A number comes back if this protocol has it. -/
def echo (n : Int) : Int := if 0 ≤ n ∧ n ≤ 7 then n else 0

theorem number_ofNumber (n : Int) : (ofNumber n).number = echo n := by
  by_cases hknown : 0 ≤ n ∧ n ≤ 7
  · obtain ⟨hzero, hseven⟩ := hknown
    interval_cases n <;> rfl
  · rw [echo, if_neg hknown, ofNumber]
    split_ifs with hneg
    · rfl
    · have hlength : all.length ≤ n.toNat := by
        rw [show all.length = 8 from rfl]
        omega
      rw [List.getD_eq_getElem?_getD, List.getElem?_eq_none hlength]
      rfl

theorem echo_eq_self_iff {n : Int} : echo n = n ↔ 0 ≤ n ∧ n ≤ 7 := by
  rw [echo]
  split_ifs with h
  · simp [h]
  · omega

end AccessMode

namespace CapabilityMessage

def echo (m : CapabilityMessage) : CapabilityMessage where
  mode := m.mode.map AccessMode.echo
  access := m.access.map fun
    | .block => .block
    | .mount v => .mount { v with group := "" }

def MountsVolume (m : CapabilityMessage) : Prop := m.mode.isSome ∧ ∃ v, m.access = some (.mount v)

/-- Has a mode that this protocol has, and no group. -/
def IsKnown (m : CapabilityMessage) : Prop :=
  (∀ n, m.mode = some n → 0 ≤ n ∧ n ≤ 7) ∧ ∀ v, m.access = some (.mount v) → v.group = ""

theorem echo_eq_self_iff {m : CapabilityMessage} : m.echo = m ↔ m.IsKnown := by
  obtain ⟨mode, access⟩ := m
  have hmode : mode.map AccessMode.echo = mode ↔ ∀ n, mode = some n → 0 ≤ n ∧ n ≤ 7 := by
    cases mode <;> simp [AccessMode.echo_eq_self_iff]
  rcases access with _ | _ | ⟨fsType, flags, group⟩ <;>
    simp [echo, IsKnown, hmode, @eq_comm _ ""]

end CapabilityMessage

namespace Capability

variable {m : CapabilityMessage} {c : Capability}

theorem ofMessage_ok_iff : ofMessage m = .ok c ↔
    ∃ n v, m = ⟨some n, some v⟩ ∧ c = ⟨.ofNumber n, .ofMessage v⟩ := by
  rcases m with ⟨_ | n, _ | v⟩ <;> simp [ofMessage, eq_comm]

theorem toMessage_of_ofMessage_ok (h : ofMessage m = .ok c) : c.toMessage = m.echo := by
  obtain ⟨n, v, rfl, rfl⟩ := ofMessage_ok_iff.1 h
  rcases v with _ | v
  · simp [toMessage, CapabilityMessage.echo, AccessMode.number_ofNumber, Access.ofMessage,
      Access.toMessage]
  · by_cases hfsType : v.fsType = "" <;>
      simp [toMessage, CapabilityMessage.echo, AccessMode.number_ofNumber, Access.ofMessage,
        Access.toMessage, hfsType]

theorem isMount_of_ofMessage_ok (h : ofMessage m = .ok c) :
    c.access.isMount = true ↔ m.MountsVolume := by
  obtain ⟨n, v, rfl, rfl⟩ := ofMessage_ok_iff.1 h
  cases v <;> simp [CapabilityMessage.MountsVolume, Access.ofMessage, Access.isMount]

end Capability

section

variable {ms : List CapabilityMessage} {cs : List Capability}

theorem map_toMessage_of_mapM_ok (h : ms.mapM Capability.ofMessage = .ok cs) :
    cs.map Capability.toMessage = ms.map CapabilityMessage.echo := by
  rw [Except.mapM_ok_iff_forall₂] at h
  induction h with
  | nil => rfl
  | cons hhead _ ih => rw [List.map_cons, List.map_cons, Capability.toMessage_of_ofMessage_ok hhead, ih]

theorem any_not_isMount_of_mapM_ok (h : ms.mapM Capability.ofMessage = .ok cs) :
    cs.any (!·.access.isMount) = false ↔ ∀ m ∈ ms, m.MountsVolume := by
  rw [Except.mapM_ok_iff_forall₂] at h
  induction h with
  | nil => simp
  | cons hhead _ ih => simp [ih, ← Capability.isMount_of_ofMessage_ok hhead]

theorem exists_mapM_ok (h : ∀ m ∈ ms, m.MountsVolume) :
    ∃ cs, ms.mapM Capability.ofMessage = .ok cs := by
  refine Except.mapM_isOk_iff.2 fun m hm ↦ ?_
  obtain ⟨hmode, v, haccess⟩ := h m hm
  obtain ⟨n, hn⟩ := Option.isSome_iff_exists.1 hmode
  exact ⟨_, Capability.ofMessage_ok_iff.2 ⟨n, .mount v, by rw [← hn, ← haccess], rfl⟩⟩

end

/-- What a message about a volume asks is in order, and the realm has the volume. -/
structure ValidateMessage.Confirmable {σ : Type} (realm : Realm σ) (s : σ) (m : ValidateMessage) :
    Prop where
  volumeId : m.volumeId ≠ ""
  capabilities : m.capabilities ≠ []
  mounts : ∀ c ∈ m.capabilities, c.MountsVolume
  credentials : Controller.checkCredentials m.secrets = .ok ()
  known : ∃ record, ((realm.lookup m.volumeId m.secrets).outcome s).1 = .ok record

def ValidateMessage.confirmation (m : ValidateMessage) : ValidateResponseMessage where
  confirmed := some
    { context := m.context
      capabilities := m.capabilities.map CapabilityMessage.echo
      parameters := m.parameters }
  message := ""

theorem Controller.checkValidate_ok_iff {r : ValidateRequest} :
    checkValidate r = .ok () ↔
      checkCredentials r.secrets = .ok () ∧ r.capabilities.any (!·.access.isMount) = false := by
  cases hcredentials : checkCredentials r.secrets with
  | error f => simp [checkValidate, hcredentials, Except.bind_ok_iff]
  | ok => simp [checkValidate, hcredentials, Except.bind_ok_iff, pure, Except.pure]

theorem Controller.validate_ok_iff {σ : Type} {realm : Realm σ} {r : ValidateRequest} {s : σ}
    {v : ValidateResponse} :
    ((validate realm r).outcome s).1 = .ok v ↔ checkValidate r = .ok () ∧
      (∃ record, ((realm.lookup r.volumeId r.secrets).outcome s).1 = .ok record) ∧
      .confirmed ⟨r.capabilities, some r.context, some r.parameters⟩ = v := by
  rw [validate_eq]
  cases hcheck : checkValidate r with
  | error f => simp [guarded_refused]
  | ok =>
    rw [guarded_admitted]
    cases ((realm.lookup r.volumeId r.secrets).outcome s).1 with
    | ok record => simp [afterLookup]
    | error e => cases hkind : e.kind <;> simp [afterLookup, hkind]

theorem Service.respond_ok_iff {σ ρ α : Type} {request : Except Status ρ}
    {handler : ρ → Action σ Failure α} {reply : α → Except Status Reply} {warnings : α → List Warning}
    {s : σ} {answer : Reply} :
    (respond request handler reply warnings s).1.result = .ok answer ↔
      ∃ r a, request = .ok r ∧ ((handler r).outcome s).1 = .ok a ∧ reply a = .ok answer := by
  cases request with
  | error status => simp [respond]
  | ok r => rcases houtcome : (handler r).outcome s with ⟨_ | _, _⟩ <;> simp [respond, houtcome]

namespace Plugin

variable {ω : Type} {mode : Mode} {m : ValidateMessage} {realm : Realm (Host ω)}
  (settings : PluginSettings) (mounter : Mounter ω) (annotator : Annotator (Host ω))
  (t : Readiness × Host ω)

theorem validateCapabilities_result (r : ValidateRequest) :
    (((service settings realm mounter annotator).validateCapabilities r).outcome t).1 =
      ((Controller.validate realm r).outcome t.2).1 := rfl

theorem handle_validate_ok_iff (hmode : mode.servesController = true) (reply : Reply) :
    ((service settings realm mounter annotator).handle mode (.validate m) t).1.result = .ok reply ↔
      m.Confirmable realm t.2 ∧ .validated m.confirmation = reply := by
  simp only [Service.handle, Call.isServed, hmode, Bool.not_true, Bool.false_eq_true, if_false]
  simp only [Service.respond_ok_iff, validateCapabilities_result]
  constructor
  · rintro ⟨r, v, hr, hv, ⟨⟩⟩
    obtain ⟨hname, hcapabilities, cs, hcs, rfl⟩ := ValidateRequest.ofMessage_ok_iff.1 hr
    obtain ⟨hcheck, hknown, rfl⟩ := Controller.validate_ok_iff.1 hv
    obtain ⟨hcredentials, hmounts⟩ := Controller.checkValidate_ok_iff.1 hcheck
    refine ⟨⟨hname, hcapabilities, (any_not_isMount_of_mapM_ok hcs).1 hmounts, hcredentials, hknown⟩, ?_⟩
    simp [ValidateMessage.confirmation, ValidateResponse.toMessage, map_toMessage_of_mapM_ok hcs]
  · rintro ⟨h, rfl⟩
    obtain ⟨cs, hcs⟩ := exists_mapM_ok h.mounts
    have hcheck : Controller.checkValidate { m with capabilities := cs } = .ok () :=
      Controller.checkValidate_ok_iff.2 ⟨h.credentials, (any_not_isMount_of_mapM_ok hcs).2 h.mounts⟩
    refine ⟨_, _, ValidateRequest.ofMessage_ok_iff.2 ⟨h.volumeId, h.capabilities, cs, hcs, rfl⟩,
      Controller.validate_ok_iff.2 ⟨hcheck, h.known, rfl⟩, ?_⟩
    simp [ValidateMessage.confirmation, ValidateResponse.toMessage, map_toMessage_of_mapM_ok hcs]

theorem handle_validate_unserved (hmode : mode.servesController = false) :
    ((service settings realm mounter annotator).handle mode (.validate m) t).1.result =
      .error .unimplemented := by
  simp only [Service.handle, Call.isServed, hmode]
  rfl

/-- A question how a volume can be used is answered, where it is served, just if it is in order and the
realm has the volume. The answer confirms the context and the parameters of the question, and its
capabilities in their order, each as it was asked but for a mode of a later protocol and the group; so
they are just those of the question if they have neither. -/
theorem confirms_what_was_asked (mode : Mode) (m : ValidateMessage) (realm : Realm (Host ω)) :
    let answer := ((service settings realm mounter annotator).handle mode (.validate m) t).1.result
    ((∃ v, answer = .ok (.validated v)) ↔ mode.servesController = true ∧ m.Confirmable realm t.2) ∧
    ∀ v, answer = .ok (.validated v) → ∃ c, v.confirmed = some c ∧
      c.context = m.context ∧ c.parameters = m.parameters ∧
      c.capabilities = m.capabilities.map CapabilityMessage.echo ∧
      (c.capabilities = m.capabilities ↔ ∀ capability ∈ m.capabilities, capability.IsKnown) := by
  intro answer
  cases hmode : mode.servesController with
  | false => simp [answer, handle_validate_unserved settings mounter annotator t hmode]
  | true =>
    have hanswer (reply : Reply) :
        answer = .ok reply ↔ m.Confirmable realm t.2 ∧ .validated m.confirmation = reply :=
      handle_validate_ok_iff settings mounter annotator t hmode reply
    refine ⟨?_, ?_⟩
    · simp [answer, hanswer]
    · intro v hv
      obtain ⟨-, ⟨⟩⟩ := (hanswer _).1 hv
      refine ⟨_, rfl, rfl, rfl, rfl, ?_⟩
      simpa [CapabilityMessage.echo_eq_self_iff] using
        List.map_inj_left (f := CapabilityMessage.echo) (g := id) (l := m.capabilities)

def holding : Readiness × MemoryHost := ({}, ⟨{}, RealmMemory.insert { name := "a" } {}, {}⟩)

def question (capability : CapabilityMessage) : ValidateMessage where
  volumeId := "a"
  context := Dictionary.ofList [("k", "v")]
  capabilities := [capability]
  secrets := Validation.adminSecrets

theorem question_confirmable {capability : CapabilityMessage} (h : capability.MountsVolume) :
    (question capability).Confirmable (RealmMemory.realm.within memory setMemory) holding.2 where
  volumeId := by simp [question]
  capabilities := List.cons_ne_nil _ _
  mounts := List.forall_mem_singleton.2 h
  credentials := by
    change Controller.checkCredentials Validation.adminSecrets = .ok ()
    decide +kernel
  known := by
    have hrecord : (memory holding.2).record? "a" = some { name := "a" } :=
      (RealmMemory.insert_record? _ _ _).trans (if_pos (by decide))
    refine ⟨{ name := "a" }, ?_⟩
    simp only [question, Realm.within, RealmMemory.realm, Action.outcome_on, RealmMemory.lookup_outcome,
      RealmMemory.found, hrecord, RealmMemory.admission_of_no_failure (m := memory holding.2) rfl]
    rfl

theorem confirms_what_was_asked_of_flags :
    let capability : CapabilityMessage := ⟨some 1, some (.mount ⟨"panfs", ["noatime"], ""⟩)⟩
    ∃ v c, (inMemory.handle .all (.validate (question capability)) holding).1.result =
      .ok (.validated v) ∧ v.confirmed = some c ∧ c.capabilities = [capability] ∧
      c.context = Dictionary.ofList [("k", "v")] := by
  intro capability
  have hknown : capability.IsKnown := by simp [capability, CapabilityMessage.IsKnown]
  obtain ⟨hanswered, hconfirmed⟩ := confirms_what_was_asked ⟨"panfs", "node", "ready", "/tmp"⟩
    (MountMemory.mounter Prod.snd fun m o ↦ (o.1, m)) .idle holding .all (question capability)
    (RealmMemory.realm.within memory setMemory)
  obtain ⟨v, hv⟩ := hanswered.2 ⟨rfl, question_confirmable ⟨rfl, _, rfl⟩⟩
  obtain ⟨c, hc, hcontext, -, -, hcapabilities⟩ := hconfirmed v hv
  rw [inMemory]
  -- the handler is not to be unfolded
  refine ⟨v, c, by with_reducible exact hv, hc, ?_, hcontext⟩
  exact hcapabilities.2 (List.forall_mem_singleton.2 hknown)

theorem confirms_question {capability : CapabilityMessage} (h : capability.MountsVolume) :
    (inMemory.handle .all (.validate (question capability)) holding).1.result =
      .ok (.validated (question capability).confirmation) :=
  (handle_validate_ok_iff _ _ _ _ rfl _).2 ⟨question_confirmable h, rfl⟩

/-- Neither a group nor a mode of a later protocol comes back. -/
theorem confirms_less_than_asked :
    (∃ v c, (inMemory.handle .all (.validate (question
        ⟨some 1, some (.mount { group := "users" })⟩)) holding).1.result = .ok (.validated v) ∧
      v.confirmed = some c ∧ c.capabilities = [⟨some 1, some (.mount {})⟩]) ∧
    ∃ v c, (inMemory.handle .all (.validate (question ⟨some 99, some (.mount {})⟩)) holding).1.result =
        .ok (.validated v) ∧
      v.confirmed = some c ∧ c.capabilities = [⟨some 0, some (.mount {})⟩] :=
  ⟨⟨_, _, confirms_question ⟨rfl, _, rfl⟩, rfl, rfl⟩, _, _, confirms_question ⟨rfl, _, rfl⟩, rfl, rfl⟩

end Plugin

end RealmDriver
