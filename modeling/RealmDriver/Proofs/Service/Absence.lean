import RealmDriver.Proofs.Realm.Verdict
import RealmDriver.Proofs.Service.Confirmation
import RealmDriver.Proofs.Service.History

namespace RealmDriver

open Text (HasPhrase)

namespace RealmMemory

variable {m : RealmMemory} {name phrase : String}

def missing (name : String) : String := "No volume with name " ++ VolumeName.path name

theorem missing_eq (name : String) : s!"No volume with name /{VolumeName.strip name}" = missing name := by
  have hmark : "No volume with name /" = "No volume with name " ++ "/" := by decide
  unfold missing VolumeName.path
  rw [← String.append_assoc, ← hmark]
  rfl

theorem hasPhrase_strip (hslash : '/' ∉ phrase.toList) :
    HasPhrase phrase (VolumeName.strip name) ↔ HasPhrase phrase name := by
  constructor
  · rintro ⟨w, hw, hlower⟩
    rw [VolumeName.strip, String.toList_ofList] at hw
    exact ⟨w, hw.trans (List.dropWhile_suffix _).isInfix, hlower⟩
  · rintro ⟨w, hw, hlower⟩
    refine ⟨w, ?_, hlower⟩
    rw [VolumeName.strip, String.toList_ofList]
    refine Text.infix_dropWhile (fun c hc ↦ decide_eq_false ?_) hw
    rintro rfl
    rw [← hlower] at hslash
    exact hslash (List.mem_map.2 ⟨'/', List.mem_of_mem_head? hc, by decide⟩)

theorem hasPhrase_missing :
    HasPhrase "already exists" (missing name) ↔ HasPhrase "already exists" name := by
  have hsplit : (missing name).toList =
      "No volume with name ".toList ++ '/' :: (VolumeName.strip name).toList := by
    unfold missing VolumeName.path
    rw [String.toList_append, String.toList_append]
    rfl
  have hfront : ¬HasPhrase "already exists" "No volume with name " := by
    rw [← Text.mentions_iff_hasPhrase (by decide)]
    decide
  rw [Text.hasPhrase_iff_of_toList hsplit (by decide) (by decide), hasPhrase_strip (by decide)]
  exact or_iff_right hfront

theorem classify_missing_of_phrase (h : HasPhrase "already exists" name) :
    classify (missing name) = .error ⟨.alreadyExists, Text.trim (missing name)⟩ := by
  rw [← hasPhrase_missing, ← Text.mentions_iff_hasPhrase (by decide)] at h
  rw [classify, Verdict.ofText_already_exists h]

theorem classify_missing_of_not_phrase (h : ¬HasPhrase "already exists" name) :
    classify (missing name) = .error ⟨.notFound, Text.trim (missing name)⟩ := by
  rw [← hasPhrase_missing, ← Text.mentions_iff_hasPhrase (by decide), Bool.not_eq_true] at h
  have hmark : Text.mentions "no volume with name" "No volume with name " = true := by decide
  have hmentions : Text.mentions "no volume with name" (missing name) = true :=
    Text.mentions_append_right hmark _
  simp only [classify, Verdict.ofText, Verdict.phrases, List.find?_cons, h, hmentions]

section Absent

variable (hfailure : m.failure = none) (habsent : m.record? name = none)
include hfailure habsent

theorem delete_absent :
    ((delete name).outcome m).1 = .error ⟨.notFound, "Error: volume(s) do not exist"⟩ := by
  rw [delete_outcome, admission_of_no_failure hfailure, habsent, ← classify_missing]

theorem lookup_absent : ((lookup name).outcome m).1 = .error ⟨.notFound, missing name⟩ := by
  rw [lookup_outcome, found, admission_of_no_failure hfailure, habsent, ← missing_eq]
  rfl

theorem expand_absent (bytes : Int) : ((expand name bytes).outcome m).1 = classify (missing name) := by
  rw [expand_outcome, admission_of_no_failure hfailure, habsent, ← missing_eq]

end Absent

end RealmMemory

theorem Capability.exists_mapM_ok {m? : Option CapabilityMessage}
    (h : ∀ m ∈ m?, ∃ c, ofMessage m = .ok c) : ∃ c?, m?.mapM ofMessage = .ok c? := by
  cases m? with
  | none => exact ⟨none, rfl⟩
  | some m =>
    obtain ⟨c, hc⟩ := h m rfl
    refine ⟨some c, ?_⟩
    rw [Option.mapM_some, hc]
    rfl

namespace Controller

theorem checkExpand_ok_iff {r : ExpandRequest} :
    checkExpand r = .ok () ↔ checkCredentials r.secrets = .ok () ∧ 0 < r.capacity.required := by
  cases hcredentials : checkCredentials r.secrets with
  | error f => simp [checkExpand, hcredentials, Except.bind_ok_iff]
  | ok => simp [checkExpand, hcredentials, Except.bind_ok_iff, pure, Except.pure]

section Absent

variable {σ : Type} {get : σ → RealmMemory} (set : RealmMemory → σ → σ) {s : σ}
  (hfailure : (get s).failure = none)
include hfailure

theorem delete_absent (r : DeleteRequest) (hsecrets : checkCredentials r.secrets = .ok ())
    (habsent : (get s).record? r.volumeId = none) :
    ((delete (RealmMemory.realm.within get set) r).outcome s).1 = .ok () := by
  rw [delete_eq, hsecrets, guarded_admitted]
  change afterDelete ((RealmMemory.delete r.volumeId).outcome (get s)).1 = _
  rw [RealmMemory.delete_absent hfailure habsent]
  rfl

theorem validate_absent (r : ValidateRequest) (hcheck : checkValidate r = .ok ())
    (habsent : (get s).record? r.volumeId = none) :
    ((validate (RealmMemory.realm.within get set) r).outcome s).1 =
      .error (.volumeNotFound (RealmMemory.missing r.volumeId)) := by
  rw [validate_eq, hcheck, guarded_admitted]
  change afterLookup r ((RealmMemory.lookup r.volumeId).outcome (get s)).1 = _
  rw [RealmMemory.lookup_absent hfailure habsent]
  rfl

theorem expand_absent (r : ExpandRequest) (hcheck : checkExpand r = .ok ())
    (habsent : (get s).record? r.volumeId = none) :
    ((expand (RealmMemory.realm.within get set) r).outcome s).1 =
      afterExpand r (classify (RealmMemory.missing r.volumeId)) := by
  rw [expand_eq, hcheck, guarded_admitted]
  change afterExpand r ((RealmMemory.expand r.volumeId _).outcome (get s)).1 = _
  rw [RealmMemory.expand_absent hfailure habsent]

end Absent

end Controller

theorem Service.respond_result {σ ρ α : Type} {request : Except Status ρ}
    {handler : ρ → Action σ Failure α} {reply : α → Except Status Reply} {warnings : α → List Warning}
    {r : ρ} (hrequest : request = .ok r) (s : σ) :
    (respond request handler reply warnings s).1.result =
      (((handler r).outcome s).1.mapError Failure.status).bind reply := by
  rw [hrequest]
  rcases houtcome : (handler r).outcome s with ⟨f | a, s'⟩
  · simp only [respond, houtcome]
    rfl
  · simp only [respond, houtcome]
    rfl

namespace Plugin

variable {ω : Type} {mode : Mode} (settings : PluginSettings) (mounter : Mounter ω)
  (annotator : Annotator (Host ω)) (t : Readiness × Host ω)

section Results

variable {realm : Realm (Host ω)} (hmode : mode.servesController = true)
include hmode

theorem handle_delete_result {m : DeleteMessage} {r : DeleteRequest}
    (hr : DeleteRequest.ofMessage m = .ok r) :
    ((service settings realm mounter annotator).handle mode (.delete m) t).1.result =
      (((Controller.delete realm r).outcome t.2).1.mapError Failure.status).bind fun _ ↦ .ok .done := by
  simp only [Service.handle, Call.isServed, hmode, Bool.not_true, Bool.false_eq_true, if_false]
  exact Service.respond_result hr t

theorem handle_validate_result {m : ValidateMessage} {r : ValidateRequest}
    (hr : ValidateRequest.ofMessage m = .ok r) :
    ((service settings realm mounter annotator).handle mode (.validate m) t).1.result =
      (((Controller.validate realm r).outcome t.2).1.mapError Failure.status).bind
        fun v ↦ .ok (.validated v.toMessage) := by
  simp only [Service.handle, Call.isServed, hmode, Bool.not_true, Bool.false_eq_true, if_false]
  exact Service.respond_result hr t

theorem handle_expand_result {m : ExpandMessage} {r : ExpandRequest}
    (hr : ExpandRequest.ofMessage m = .ok r) :
    ((service settings realm mounter annotator).handle mode (.expand m) t).1.result =
      (((Controller.expand realm r).outcome t.2).1.mapError Failure.status).bind
        fun v ↦ v.toMessage.map .expanded := by
  simp only [Service.handle, Call.isServed, hmode, Bool.not_true, Bool.false_eq_true, if_false]
  exact Service.respond_result hr t

end Results

section Absent

variable (get : Host ω → RealmMemory) (set : RealmMemory → Host ω → Host ω)
  (hmode : mode.servesController = true) {id : String} {secrets : Dictionary} (hid : id ≠ "")
  (hsecrets : Controller.checkCredentials secrets = .ok ()) (hfailure : (get t.2).failure = none)
  (habsent : (get t.2).record? id = none)
include hmode hid hsecrets hfailure habsent

theorem handle_delete_absent :
    ((service settings (RealmMemory.realm.within get set) mounter annotator).handle mode
      (.delete ⟨id, secrets⟩) t).1.result = .ok .done := by
  have hr := (DeleteRequest.ofMessage_ok_iff (m := ⟨id, secrets⟩)).2 ⟨hid, rfl⟩
  refine (handle_delete_result settings mounter annotator t hmode hr).trans ?_
  rw [Controller.delete_absent set hfailure ⟨id, secrets⟩ hsecrets habsent]
  rfl

theorem handle_validate_absent {context parameters : Dictionary} {capabilities : List CapabilityMessage}
    (hsome : capabilities ≠ []) (hmounts : ∀ c ∈ capabilities, c.MountsVolume) :
    ((service settings (RealmMemory.realm.within get set) mounter annotator).handle mode
      (.validate ⟨id, context, capabilities, parameters, secrets⟩) t).1.result =
        .error ⟨.notFound, RealmMemory.missing id⟩ := by
  obtain ⟨cs, hcs⟩ := exists_mapM_ok hmounts
  have hr := (ValidateRequest.ofMessage_ok_iff
    (m := ⟨id, context, capabilities, parameters, secrets⟩)).2 ⟨hid, hsome, cs, hcs, rfl⟩
  have hcheck : Controller.checkValidate ⟨id, context, cs, parameters, secrets⟩ = .ok () :=
    Controller.checkValidate_ok_iff.2 ⟨hsecrets, (any_not_isMount_of_mapM_ok hcs).2 hmounts⟩
  refine (handle_validate_result settings mounter annotator t hmode hr).trans ?_
  rw [Controller.validate_absent set hfailure ⟨id, context, cs, parameters, secrets⟩ hcheck habsent]
  rfl

theorem handle_expand_absent {range : CapacityRange} {capability : Option CapabilityMessage}
    (hrange : 0 < range.required) (hcapability : ∀ m ∈ capability, ∃ c, Capability.ofMessage m = .ok c) :
    ∃ r, ((service settings (RealmMemory.realm.within get set) mounter annotator).handle mode
      (.expand ⟨id, some range, secrets, capability⟩) t).1.result =
        ((Controller.afterExpand r (classify (RealmMemory.missing id))).mapError Failure.status).bind
          fun v ↦ v.toMessage.map .expanded := by
  obtain ⟨capability', hcapability'⟩ := Capability.exists_mapM_ok hcapability
  have hr := (ExpandRequest.ofMessage_ok_iff (m := ⟨id, some range, secrets, capability⟩)).2
    ⟨hid, range, rfl, capability', hcapability', rfl⟩
  have hcheck : Controller.checkExpand ⟨id, range, secrets, capability'⟩ = .ok () :=
    Controller.checkExpand_ok_iff.2 ⟨hsecrets, hrange⟩
  exact ⟨_, (handle_expand_result settings mounter annotator t hmode hr).trans
    (by rw [Controller.expand_absent set hfailure ⟨id, range, secrets, capability'⟩ hcheck habsent])⟩

end Absent

/-- A volume that the realm in memory does not have counts as deleted, and a question about it is answered
with that it is not found. So is an expansion of it, just if its name does not say that something exists
already. -/
theorem reports_missing (get : Host ω → RealmMemory) (set : RealmMemory → Host ω → Host ω)
    (hmode : mode.servesController = true) {id : String} {secrets : Dictionary} (hid : id ≠ "")
    (hsecrets : Controller.checkCredentials secrets = .ok ()) (hfailure : (get t.2).failure = none)
    (habsent : (get t.2).record? id = none) :
    let answer call := ((service settings (RealmMemory.realm.within get set) mounter annotator).handle mode
      call t).1.result
    answer (.delete ⟨id, secrets⟩) = .ok .done ∧
    (∀ context capabilities parameters, capabilities ≠ [] → (∀ c ∈ capabilities, c.MountsVolume) →
      answer (.validate ⟨id, context, capabilities, parameters, secrets⟩) =
        .error ⟨.notFound, RealmMemory.missing id⟩) ∧
    ∀ range capability, 0 < range.required → (∀ m ∈ capability, ∃ c, Capability.ofMessage m = .ok c) →
      let expanded := answer (.expand ⟨id, some range, secrets, capability⟩)
      (¬HasPhrase "already exists" id →
        expanded = .error ⟨.notFound, Text.trim (RealmMemory.missing id)⟩) ∧
      (HasPhrase "already exists" id →
        expanded = .error ⟨.internal, "ControllerExpandVolume failed: already exists error from the realm"⟩) := by
  refine ⟨handle_delete_absent settings mounter annotator t get set hmode hid hsecrets hfailure habsent,
    fun context capabilities parameters hsome hmounts ↦
      handle_validate_absent settings mounter annotator t get set hmode hid hsecrets hfailure habsent hsome
        hmounts,
    fun range capability hrange hcapability ↦ ?_⟩
  obtain ⟨r, hexpanded⟩ := handle_expand_absent settings mounter annotator t get set hmode hid hsecrets
    hfailure habsent hrange hcapability
  refine ⟨fun hphrase ↦ hexpanded.trans ?_, fun hphrase ↦ hexpanded.trans ?_⟩
  · rw [RealmMemory.classify_missing_of_not_phrase hphrase]
    rfl
  · rw [RealmMemory.classify_missing_of_phrase hphrase]
    rfl

abbrev growing (id : String) : Call := .expand ⟨id, some ⟨1, 0⟩, Validation.adminSecrets, none⟩

theorem reports_missing_of_marks :
    let answer call := (inMemory.handle .all call vacant).1.result
    let id := "/successfully <volumes>"
    answer (.delete ⟨id, Validation.adminSecrets⟩) = .ok .done ∧
      answer (.validate ⟨id, ∅, [⟨some 1, some (.mount {})⟩], ∅, Validation.adminSecrets⟩) =
        .error ⟨.notFound, RealmMemory.missing id⟩ ∧
      answer (growing id) = .error ⟨.notFound, Text.trim (RealmMemory.missing id)⟩ ∧
      answer (growing "already exists") =
        .error ⟨.internal, "ControllerExpandVolume failed: already exists error from the realm"⟩ := by
  rw [inMemory]
  have hmode : Mode.all.servesController = true := rfl
  have hsecrets : Controller.checkCredentials Validation.adminSecrets = .ok () := rfl
  have hmissing (id : String) (hid : id ≠ "") := reports_missing ⟨"panfs", "node", "ready", "/tmp"⟩
    (MountMemory.mounter Prod.snd fun m o ↦ (o.1, m)) .idle vacant memory setMemory hmode hid hsecrets rfl
    Std.ExtTreeMap.getElem?_empty
  have hplain : ¬HasPhrase "already exists" "/successfully <volumes>" := by
    rw [← Text.mentions_iff_hasPhrase (by decide)]
    decide
  have hphrase : HasPhrase "already exists" "already exists" := by
    rw [← Text.mentions_iff_hasPhrase (by decide)]
    decide
  obtain ⟨hdelete, hvalidate, hexpand⟩ := hmissing "/successfully <volumes>" (by decide)
  obtain ⟨-, -, hexpand'⟩ := hmissing "already exists" (by decide)
  have hquestion := hvalidate ∅ [⟨some 1, some (.mount {})⟩] ∅ (List.cons_ne_nil _ _)
    (List.forall_mem_singleton.2 ⟨rfl, _, rfl⟩)
  have hnone : ∀ m ∈ (none : Option CapabilityMessage), ∃ c, Capability.ofMessage m = .ok c :=
    fun _ hm ↦ absurd hm (Option.not_mem_none _)
  have hfound := (hexpand ⟨1, 0⟩ none (by decide) hnone).1 hplain
  have hmistaken := (hexpand' ⟨1, 0⟩ none (by decide) hnone).2 hphrase
  -- the handler is not to be unfolded
  refine ⟨?_, ?_, ?_, ?_⟩
  · with_reducible exact hdelete
  · with_reducible exact hquestion
  · with_reducible exact hfound
  · with_reducible exact hmistaken

/-- A volume that is not there, and whose name makes another failure of that. -/
theorem missing_as_internal :
    Controller.checkCredentials Validation.adminSecrets = .ok () ∧ (memory vacant.2).failure = none ∧
      (memory vacant.2).record? "already exists" = none ∧
      (inMemory.handle .all (growing "already exists") vacant).1.result =
        .error ⟨.internal, "ControllerExpandVolume failed: already exists error from the realm"⟩ := by
  exact ⟨rfl, rfl, Std.ExtTreeMap.getElem?_empty, rfl⟩

end Plugin

end RealmDriver
