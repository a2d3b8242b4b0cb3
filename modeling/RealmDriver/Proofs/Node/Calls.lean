import RealmDriver.Proofs.Node.Publishing
import RealmDriver.Proofs.Service.Confirmation

namespace RealmDriver

namespace PublishMessage

structure IsComplete (m : PublishMessage) : Prop where
  volume : m.volumeId ≠ ""
  target : m.target.toList.head? = some '/'
  capability : ∃ mode access, m.capability = some ⟨some mode, some access⟩

variable (m : PublishMessage)

def access? : Option AccessMessage := m.capability.bind CapabilityMessage.access

/-- The message can be understood, and comes with enough to open a session at the realm. -/
def IsAccepted : Prop := m.IsComplete ∧ Validation.credentials m.secrets = .ok ()

def IsUnsupported : Prop :=
  m.access? = some .block ∨ m.context[Node.ephemeralKey]? = some "true"

/-- The mounter is to be called for the message. -/
structure IsDue (directory : Path) (files : FileTree) : Prop where
  complete : m.IsComplete
  credentials : Validation.credentials m.secrets = .ok ()
  mount : ∃ v, m.access? = some (.mount v)
  lasting : m.context[Node.ephemeralKey]? ≠ some "true"
  keyManager : Node.isEncrypted m.context = true →
    (∃ secret, m.secrets[Secret.keyManager.key]? = some secret ∧ secret ≠ "") ∧
      KeyManagerFile.Creatable directory m.secrets[Secret.keyManager.key]? files

/-- What the mounter is called with: the options of the message in their order, then the one for a volume
that is only read, then the one for an encrypted volume. -/
structure Asks (directory : Path) (files : FileTree) (s : Sighting) : Prop where
  source : ∃ address, m.secrets["realm_ip"]? = some address ∧
    s.1.source = "panfs://" ++ address ++ "/" ++ m.volumeId
  target : s.1.target = m.target
  fsType : s.1.fsType = "panfs"
  options : ∃ v more, m.access? = some (.mount v) ∧
    s.1.options = v.flags ++ (if m.readonly then ["ro"] else []) ++ more ∧
    (Node.isEncrypted m.context = false → more = []) ∧
    (Node.isEncrypted m.context = true → ∃ secret file,
      m.secrets[Secret.keyManager.key]? = some secret ∧
      more = ["kmip-config-file=" ++ file.path] ∧
      KeyManagerFile.Holds directory secret files s.2 file)

/-- How a message is refused for which the mounter is not called. -/
structure RefusedWith (directory : Path) (files : FileTree) (code : Code) : Prop where
  precondition : code = .failedPrecondition ↔ m.IsAccepted ∧ m.IsUnsupported
  internal : code = .internal ↔ (m.IsAccepted ∧ ¬m.IsUnsupported) ∧
    Node.isEncrypted m.context = true ∧
      ¬KeyManagerFile.Creatable directory m.secrets[Secret.keyManager.key]? files
  otherwise : code ≠ .failedPrecondition → code ≠ .internal → code = .invalidArgument

end PublishMessage

namespace PublishRequest

variable {m : PublishMessage}

def made (m : PublishMessage) (mode : Int) (access : AccessMessage) : PublishRequest :=
  { m with capability := ⟨.ofNumber mode, .ofMessage access⟩ }

theorem requiredDirectory_blames (field path : String) :
    Blames Status.code (requiredDirectory field path) := by
  rw [requiredDirectory]
  split_ifs
  · exact .error rfl
  · exact .ok _
  · exact .error rfl

theorem ofMessage_blames (m : PublishMessage) : Blames Status.code (ofMessage m) := by
  apply Blames.guard rfl
  apply Blames.bind (requiredDirectory_blames _ _)
  intro target
  split
  · apply Blames.bind (Capability.ofMessage_blames _)
    intro capability
    exact .ok _
  · exact .error rfl

theorem requiredDirectory_ok_iff {field path target : String} :
    requiredDirectory field path = .ok target ↔ path.toList.head? = some '/' ∧ target = path := by
  rw [requiredDirectory]
  split_ifs with hempty hslash
  · simp [hempty]
  · simp [hslash, eq_comm]
  · simp [hslash]

theorem ofMessage_ok_iff {r : PublishRequest} : ofMessage m = .ok r ↔
    m.volumeId ≠ "" ∧ m.target.toList.head? = some '/' ∧
      ∃ mode access, m.capability = some ⟨some mode, some access⟩ ∧ r = made m mode access := by
  simp only [ofMessage, Except.guard_ok_iff, Except.bind_ok_iff, requiredDirectory_ok_iff]
  refine and_congr_right fun _ ↦ ⟨?_, ?_⟩
  · rintro ⟨_, ⟨htarget, rfl⟩, h⟩
    refine ⟨htarget, ?_⟩
    split at h
    · obtain ⟨_, hcapability, ⟨⟩⟩ := Except.bind_ok_iff.1 h
      obtain ⟨mode, access, rfl, rfl⟩ := Capability.ofMessage_ok_iff.1 hcapability
      exact ⟨mode, access, ‹_›, rfl⟩
    · cases h
  · rintro ⟨htarget, mode, access, hcapability, rfl⟩
    refine ⟨m.target, ⟨htarget, rfl⟩, ?_⟩
    rw [hcapability]
    rfl

inductive Reading (m : PublishMessage) : Except Status PublishRequest → Prop
  | refused {status : Status} (hincomplete : ¬m.IsComplete) (hcode : status.code = .invalidArgument) :
    Reading m (.error status)
  | read {mode : Int} {access : AccessMessage} (hcomplete : m.IsComplete)
    (haccess : m.access? = some access) : Reading m (.ok (made m mode access))

theorem ofMessage_reading (m : PublishMessage) : Reading m (ofMessage m) := by
  cases h : ofMessage m with
  | error status =>
    refine .refused (fun hcomplete ↦ ?_) (ofMessage_blames m status h)
    obtain ⟨hvolume, htarget, mode, access, hcapability⟩ := hcomplete
    cases h.symm.trans (ofMessage_ok_iff.2 ⟨hvolume, htarget, mode, access, hcapability, rfl⟩)
  | ok r =>
    obtain ⟨hvolume, htarget, mode, access, hcapability, rfl⟩ := ofMessage_ok_iff.1 h
    refine .read ⟨hvolume, htarget, mode, access, hcapability⟩ ?_
    rw [PublishMessage.access?, hcapability]
    rfl

end PublishRequest

namespace Node

variable {ω : Type} (directory : Path) (mounter : Mounter ω) (r : PublishRequest) (h : Host ω)

structure Passes (r : PublishRequest) : Prop where
  credentials : Validation.credentials r.secrets = .ok ()
  mount : r.capability.access.isMount = true
  lasting : r.context[ephemeralKey]? ≠ some "true"

inductive Checked (r : PublishRequest) : Except Failure (List String) → Prop
  | unauthorized {f : Failure} (hcredentials : Validation.credentials r.secrets ≠ .ok ())
    (hcode : f.code = .invalidArgument) : Checked r (.error f)
  | unsupported {f : Failure} (hcredentials : Validation.credentials r.secrets = .ok ())
    (hunsupported : r.capability.access.isMount = false ∨ r.context[ephemeralKey]? = some "true")
    (hcode : f.code = .failedPrecondition) : Checked r (.error f)
  | passed (hpasses : Passes r) : Checked r (.ok (mountOptions r))

theorem check_checked : Checked r (check r) := by
  unfold check
  cases hcredentials : Validation.credentials r.secrets with
  | error e => exact .unauthorized (by simp [hcredentials]) rfl
  | ok =>
    cases hmount : r.capability.access.isMount with
    | false => exact .unsupported hcredentials (.inl hmount) rfl
    | true =>
      by_cases hephemeral : r.context[ephemeralKey]? = some "true"
      · simp only [hephemeral, if_true]
        exact .unsupported hcredentials (.inr hephemeral) rfl
      · simp only [hephemeral, if_false]
        exact .passed ⟨hcredentials, hmount, hephemeral⟩

variable {r} in
theorem Checked.not_passes {f : Failure} (h : Checked r (.error f)) : ¬Passes r := by
  intro hpasses
  cases h with
  | unauthorized hcredentials => exact hcredentials hpasses.credentials
  | unsupported _ hunsupported =>
    rcases hunsupported with hblock | hephemeral
    · exact absurd (hpasses.mount.symm.trans hblock) (by decide)
    · exact hpasses.lasting hephemeral

/-- How publishing goes on a host with some files, by the calls of the mounter that are seen. -/
inductive Course (files : FileTree) : List Sighting → Except Failure Unit → Prop
  | refused {f : Failure} (hchecked : Checked r (.error f)) : Course files [] (.error f)
  | unmade {f : Failure} (hpasses : Passes r) (hencrypted : isEncrypted r.context = true)
    (hunable : ¬KeyManagerFile.Creatable directory r.secrets[Secret.keyManager.key]? files)
    (hcode : f.code = .internal) : Course files [] (.error f)
  | missing {f : Failure} (hpasses : Passes r) (hencrypted : isEncrypted r.context = true)
    (hable : KeyManagerFile.Creatable directory r.secrets[Secret.keyManager.key]? files)
    (hdata : ∀ secret, r.secrets[Secret.keyManager.key]? = some secret → secret = "")
    (hcode : f.code = .invalidArgument) : Course files [] (.error f)
  | plain (hpasses : Passes r) (hplain : isEncrypted r.context = false) (answer : Except Failure Unit) :
    Course files [(mountCall r (mountOptions r), files)] answer
  | encrypted {secret : String} {file : KeyManagerFile} {now : FileTree} (hpasses : Passes r)
    (hencrypted : isEncrypted r.context = true)
    (hable : KeyManagerFile.Creatable directory r.secrets[Secret.keyManager.key]? files)
    (hdata : r.secrets[Secret.keyManager.key]? = some secret) (hsecret : secret ≠ "")
    (hholds : file.Holds directory secret files now) (answer : Except Failure Unit) :
    Course files [(mountCall r (mountOptions r ++ [file.option]), now)] answer

theorem keyManagerFailure_code {e : KeyManagerError} (h : e ≠ .missingData) :
    (keyManagerFailure e).code = .internal := by
  cases e with
  | missingData => exact absurd rfl h
  | _ => rfl

/-- Publishing with a mounter that is watched is the same as without, and what is seen tells its course. -/
theorem publish_course : ∃ log,
    (publish directory mounter.watched r).outcome (h.watched []) =
      ((publish directory mounter r).outcome h).map id (Host.watched log) ∧
    Course directory r h.files log ((publish directory mounter r).outcome h).1 := by
  have hchecked := check_checked r
  generalize hcheck : check r = checked at hchecked
  cases checked with
  | error f =>
    refine ⟨[], watched_refused hcheck, ?_⟩
    rw [publish_refused hcheck]
    exact .refused hchecked
  | ok options => cases hchecked with | passed hpasses =>
    cases hencrypted : isEncrypted r.context with
    | false => exact ⟨_, watched_plain hcheck hencrypted, .plain hpasses hencrypted _⟩
    | true =>
      have hmaking := KeyManagerFile.create_making directory r.secrets[Secret.keyManager.key]? h.files
      generalize hcreate : (KeyManagerFile.create directory
        r.secrets[Secret.keyManager.key]?).outcome h.files = making at hmaking
      cases hmaking with
      | unmade hunable he =>
        refine ⟨[], watched_unmade hcheck hencrypted hcreate, ?_⟩
        rw [publish_unmade hcheck hencrypted hcreate]
        exact .unmade hpasses hencrypted hunable (keyManagerFailure_code he)
      | missing hable hdata =>
        refine ⟨[], watched_unmade hcheck hencrypted hcreate, ?_⟩
        rw [publish_unmade hcheck hencrypted hcreate]
        exact .missing hpasses hencrypted hable hdata rfl
      | made hable hdata hsecret hbefore hvacant hdir =>
        exact ⟨_, watched_made hcheck hencrypted hcreate, .encrypted hpasses hencrypted hable hdata hsecret
          (KeyManagerFile.holds_of_vacant hbefore.adds hvacant hdir _) _⟩

end Node

namespace PublishMessage

open Node (Passes)
open PublishRequest (made)

variable {m : PublishMessage} {directory : Path} {files : FileTree} {mode : Int} {access : AccessMessage}

section

variable (mode) (haccess : m.access? = some access)
include haccess

theorem isMount_made_iff :
    (made m mode access).capability.access.isMount = true ↔ ∃ v, m.access? = some (.mount v) := by
  rw [haccess]
  cases access <;> simp [made, Access.ofMessage, Access.isMount]

theorem isUnsupported_iff : m.IsUnsupported ↔
    (made m mode access).capability.access.isMount = false ∨ m.context[Node.ephemeralKey]? = some "true" := by
  rw [IsUnsupported, haccess]
  cases access <;> simp [made, Access.ofMessage, Access.isMount]

theorem not_isUnsupported_of_passes (h : Passes (made m mode access)) : ¬m.IsUnsupported := by
  rw [isUnsupported_iff mode haccess, h.mount]
  rintro (hblock | hephemeral)
  · cases hblock
  · exact h.lasting hephemeral

theorem isDue_iff (hcomplete : m.IsComplete) : m.IsDue directory files ↔ Passes (made m mode access) ∧
    (Node.isEncrypted m.context = true →
      (∃ secret, m.secrets[Secret.keyManager.key]? = some secret ∧ secret ≠ "") ∧
        KeyManagerFile.Creatable directory m.secrets[Secret.keyManager.key]? files) := by
  constructor
  · intro h
    exact ⟨⟨h.credentials, (isMount_made_iff mode haccess).2 h.mount, h.lasting⟩, h.keyManager⟩
  · rintro ⟨hpasses, hkeyManager⟩
    exact ⟨hcomplete, hpasses.credentials, (isMount_made_iff mode haccess).1 hpasses.mount,
      hpasses.lasting, hkeyManager⟩

theorem asks_mountCall (h : Passes (made m mode access)) {more : List String} {now : FileTree}
    (hplain : Node.isEncrypted m.context = false → more = [])
    (hencrypted : Node.isEncrypted m.context = true → ∃ secret file,
      m.secrets[Secret.keyManager.key]? = some secret ∧ more = ["kmip-config-file=" ++ file.path] ∧
      KeyManagerFile.Holds directory secret files now file) :
    m.Asks directory files (Node.mountCall (made m mode access)
      (Node.mountOptions (made m mode access) ++ more), now) := by
  obtain ⟨address, haddress⟩ : ∃ address, m.secrets["realm_ip"]? = some address :=
    Validation.exists_realmAddress h.credentials
  obtain ⟨v, hv⟩ := (isMount_made_iff mode haccess).1 h.mount
  refine ⟨⟨address, haddress, ?_⟩, rfl, rfl, v, more, hv, ?_, hplain, hencrypted⟩
  · change "panfs://" ++ m.secrets.getD "realm_ip" "" ++ "/" ++ m.volumeId = _
    rw [Std.ExtTreeMap.getD_eq_getD_getElem?, haddress]
    rfl
  · cases haccess.symm.trans hv
    rfl

end

theorem RefusedWith.unsupported (haccepted : m.IsAccepted) (h : m.IsUnsupported) :
    m.RefusedWith directory files .failedPrecondition :=
  ⟨by simp [haccepted, h], by simp [h], by simp⟩

theorem RefusedWith.unmade (haccepted : m.IsAccepted) (h : ¬m.IsUnsupported)
    (hencrypted : Node.isEncrypted m.context = true)
    (hunable : ¬KeyManagerFile.Creatable directory m.secrets[Secret.keyManager.key]? files) :
    m.RefusedWith directory files .internal :=
  ⟨by simp [h], by simp [haccepted, h, hencrypted, hunable], by simp⟩

theorem RefusedWith.invalid (h : m.IsAccepted → ¬m.IsUnsupported ∧
    KeyManagerFile.Creatable directory m.secrets[Secret.keyManager.key]? files) :
    m.RefusedWith directory files .invalidArgument :=
  ⟨by simpa using fun haccepted ↦ (h haccepted).1,
    by simpa using fun haccepted _ _ ↦ (h haccepted).2, fun _ _ ↦ rfl⟩

end PublishMessage

namespace Node

variable {ω : Type} {directory : Path} {m : PublishMessage} {files : FileTree} {mode : Int}
  {access : AccessMessage} {log : List Sighting} {answer : Except Failure Unit}

open PublishRequest (made)

theorem Course.length_le_one {r : PublishRequest} (h : Course directory r files log answer) :
    log.length ≤ 1 := by
  cases h <;> simp

section

variable (hcomplete : m.IsComplete) (haccess : m.access? = some access)
include haccess

theorem Course.asks (h : Course directory (made m mode access) files log answer) :
    ∀ s ∈ log, m.Asks directory files s := by
  cases h with
  | plain hpasses hplain =>
    rw [List.forall_mem_singleton, ← List.append_nil (mountOptions _)]
    exact PublishMessage.asks_mountCall mode haccess hpasses (fun _ ↦ rfl)
      fun htrue ↦ absurd (htrue.symm.trans hplain) (by decide)
  | encrypted hpasses hencrypted hable hdata hsecret hholds =>
    rw [List.forall_mem_singleton]
    exact PublishMessage.asks_mountCall mode haccess hpasses
      (fun hfalse ↦ absurd (hencrypted.symm.trans hfalse) (by decide))
      fun _ ↦ ⟨_, _, hdata, rfl, hholds⟩
  | _ => exact fun s hs ↦ absurd hs List.not_mem_nil

include hcomplete

theorem Course.due_iff (h : Course directory (made m mode access) files log answer) :
    log ≠ [] ↔ m.IsDue directory files := by
  rw [PublishMessage.isDue_iff mode haccess hcomplete]
  cases h with
  | refused hchecked =>
    exact iff_of_false (· rfl) fun hdue ↦ hchecked.not_passes hdue.1
  | unmade hpasses hencrypted hunable hcode =>
    exact iff_of_false (· rfl) fun hdue ↦ hunable (hdue.2 hencrypted).2
  | missing hpasses hencrypted hable hdata hcode =>
    refine iff_of_false (· rfl) fun hdue ↦ ?_
    obtain ⟨⟨secret, hsecret, hne⟩, -⟩ := hdue.2 hencrypted
    exact hne (hdata secret hsecret)
  | plain hpasses hplain =>
    exact iff_of_true (by simp) ⟨hpasses, fun htrue ↦ absurd (htrue.symm.trans hplain) (by decide)⟩
  | encrypted hpasses hencrypted hable hdata hsecret hholds =>
    exact iff_of_true (by simp) ⟨hpasses, fun _ ↦ ⟨⟨_, hdata, hsecret⟩, hable⟩⟩

theorem Course.refusedWith (h : Course directory (made m mode access) files [] answer) :
    ∃ f, answer = .error f ∧ m.RefusedWith directory files f.code := by
  have haccepted (hpasses : Passes (made m mode access)) : m.IsAccepted := ⟨hcomplete, hpasses.credentials⟩
  have hsupported (hpasses : Passes (made m mode access)) : ¬m.IsUnsupported :=
    PublishMessage.not_isUnsupported_of_passes mode haccess hpasses
  cases h with
  | @refused f hchecked =>
    refine ⟨f, rfl, ?_⟩
    cases hchecked with
    | unauthorized hcredentials hcode =>
      rw [hcode]
      exact .invalid fun haccepted ↦ absurd haccepted.2 hcredentials
    | unsupported hcredentials hunsupported hcode =>
      rw [hcode]
      exact .unsupported ⟨hcomplete, hcredentials⟩
        ((PublishMessage.isUnsupported_iff mode haccess).2 hunsupported)
  | @unmade f hpasses hencrypted hunable hcode =>
    refine ⟨f, rfl, ?_⟩
    rw [hcode]
    exact .unmade (haccepted hpasses) (hsupported hpasses) hencrypted hunable
  | @missing f hpasses hencrypted hable hdata hcode =>
    refine ⟨f, rfl, ?_⟩
    rw [hcode]
    exact .invalid fun _ ↦ ⟨hsupported hpasses, hable⟩

end

end Node

namespace Plugin

variable {ω : Type} {mode : Mode} (settings : PluginSettings)

theorem handle_publish (hmode : mode.servesNode = true) (realm : Realm (Host ω)) (mounter : Mounter ω)
    (annotator : Annotator (Host ω)) (m : PublishMessage) (t : Readiness × Host ω) :
    (service settings realm mounter annotator).handle mode (.publish m) t =
      match PublishRequest.ofMessage m with
      | .error status => ({ result := .error status }, t)
      | .ok r =>
        let done := (Node.publish settings.keyManagerDirectory mounter r).outcome t.2
        ({ result := (done.1.map fun _ ↦ .done).mapError Failure.status }, t.1, done.2) := by
  simp only [Service.handle, Call.isServed, hmode]
  cases hmessage : PublishRequest.ofMessage m with
  | error status => rfl
  | ok r =>
    simp only [Service.respond, service, onHost, Action.outcome_on, Bool.not_true, Bool.false_eq_true,
      if_false]
    rcases (Node.publish settings.keyManagerDirectory mounter r).outcome t.2 with ⟨f | ⟨⟩, h⟩ <;> rfl

/-- Any message to publish a volume makes the driver call its mounter once or not at all, and the message and
the files of the host say which: it is called just if the message is complete, comes with credentials, asks
to mount a volume that lasts, and, if the volume is encrypted, brings a secret for a file that can be made.
They also say what it is called with. Otherwise the driver refuses: what it does not do as a failed
precondition, a file that it could not make as a fault of its own, and all else as the caller's fault. -/
theorem publish_calls_mounter (hmode : mode.servesNode = true) (realm : Realm (Host ω))
    (realm' : Realm (Host (List Sighting × ω))) (mounter : Mounter ω) (annotator : Annotator (Host ω))
    (annotator' : Annotator (Host (List Sighting × ω))) (m : PublishMessage) (ready : Readiness)
    (h : Host ω) :
    let answer := (service settings realm mounter annotator).handle mode (.publish m) (ready, h)
    ∃ log : List Sighting,
      (service settings realm' mounter.watched annotator').handle mode (.publish m)
        (ready, h.watched []) = (answer.1, answer.2.1, answer.2.2.watched log) ∧
      log.length ≤ 1 ∧
      (log ≠ [] ↔ m.IsDue settings.keyManagerDirectory h.files) ∧
      (∀ s ∈ log, m.Asks settings.keyManagerDirectory h.files s) ∧
      (log = [] → ∃ status, answer.1.result = .error status ∧
        m.RefusedWith settings.keyManagerDirectory h.files status.code) := by
  simp only [handle_publish settings hmode]
  have hreading := PublishRequest.ofMessage_reading m
  generalize PublishRequest.ofMessage m = reading at hreading ⊢
  cases hreading with
  | @refused status hincomplete hcode =>
    refine ⟨[], rfl, Nat.zero_le 1, iff_of_false (· rfl) fun hdue ↦ hincomplete hdue.complete,
      fun s hs ↦ absurd hs List.not_mem_nil, fun _ ↦ ⟨status, rfl, ?_⟩⟩
    rw [hcode]
    exact .invalid fun haccepted ↦ absurd haccepted.1 hincomplete
  | @read mode access hcomplete haccess =>
    obtain ⟨log, hwatched, hcourse⟩ := Node.publish_course settings.keyManagerDirectory mounter
      (PublishRequest.made m mode access) h
    refine ⟨log, ?_, hcourse.length_le_one, hcourse.due_iff hcomplete haccess, hcourse.asks haccess, ?_⟩
    · simp only [hwatched]
      rfl
    · rintro rfl
      obtain ⟨f, hf, hrefused⟩ := hcourse.refusedWith hcomplete haccess
      refine ⟨f.status, ?_, hrefused⟩
      simp only [hf]
      rfl

def deserted : Realm (Host ω) := RealmMemory.realm.within (fun _ ↦ {}) fun _ h ↦ h

def onNode (mounter : Mounter ω) : Service (Readiness × Host ω) :=
  service ⟨"panfs", "node", "ready", "/kmip"⟩ deserted mounter .idle

def encryptedMessage : PublishMessage where
  volumeId := "a"
  target := "/data"
  capability := some ⟨some 1, some (.mount { flags := ["noatime"] })⟩
  readonly := true
  secrets := Node.encryptedRequest.secrets
  context := Node.encryptedRequest.context

theorem publish_calls_mounter_of_encrypted :
    Mode.node.servesNode = true ∧
    ∃ s, ((onNode (MountMemory.mounter id fun m _ ↦ m).watched).handle .node (.publish encryptedMessage)
        ({}, Node.failingMounts.watched [])).2.2.outside.1 = [s] ∧
      encryptedMessage.IsDue "/kmip" {} ∧ encryptedMessage.Asks "/kmip" {} s := by
  have hmode : Mode.node.servesNode = true := rfl
  have hseen : ((onNode (MountMemory.mounter id fun m _ ↦ m).watched).handle .node
      (.publish encryptedMessage) ({}, Node.failingMounts.watched [])).2.2.outside.1.length = 1 := by
    decide +kernel
  obtain ⟨log, hwatched, -, hdue, hasks, -⟩ := publish_calls_mounter ⟨"panfs", "node", "ready", "/kmip"⟩
    hmode deserted deserted (MountMemory.mounter id fun m _ ↦ m) .idle .idle encryptedMessage {}
    Node.failingMounts
  rw [onNode, hwatched] at hseen ⊢
  obtain ⟨s, rfl⟩ : ∃ s, log = [s] := List.length_eq_one_iff.1 hseen
  exact ⟨hmode, s, rfl, hdue.1 (List.cons_ne_nil s []), hasks s (List.mem_singleton.2 rfl)⟩

end Plugin

end RealmDriver
