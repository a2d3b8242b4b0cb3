import RealmDriver.Mount.Host
import RealmDriver.Proofs.Realm.Command
import RealmDriver.Proofs.Realm.Secrecy
import RealmDriver.Proofs.Realm.Soundness
import RealmDriver.Proofs.Service.Confirmation
import RealmDriver.Proofs.Service.History

namespace RealmDriver

variable {ω σ : Type}

/-- A name that something is left of without the separators in front. -/
def IsProperName (name : String) : Prop := ∃ c ∈ name.toList, c ≠ '/'

/-- A path under the root of a realm, and not the root itself. -/
def IsBelowRoot (path : String) : Prop :=
  ∃ rest, path = "/" ++ rest ∧ rest ≠ "" ∧ rest.toList.head? ≠ some '/'

namespace VolumeName

variable {name : String}

theorem strip_ne_empty_iff : strip name ≠ "" ↔ IsProperName name := by
  rw [strip, IsProperName, ne_eq, String.ofList_eq_empty_iff, List.dropWhile_eq_nil_iff]
  simp

theorem isBelowRoot_path_iff : IsBelowRoot (path name) ↔ IsProperName name := by
  rw [← strip_ne_empty_iff]
  constructor
  · rintro ⟨rest, hpath, hne, -⟩
    rw [path, String.append_right_inj] at hpath
    exact hpath ▸ hne
  · exact fun hne ↦ ⟨strip name, rfl, hne, strip_head? name⟩

theorem path_of_not_proper (h : ¬IsProperName name) : path name = "/" := by
  rw [← strip_ne_empty_iff, not_not] at h
  rw [path, h]
  rfl

end VolumeName

/-- A command with a path, and what it does there. -/
inductive Command.Leads (path : String) : List String → Prop
  | create (options : List String) : Leads path ("volume" :: "create" :: path :: options)
  | delete : Leads path ["volume", "delete", path, "force"]
  | setQuota (quota amount : String) : Leads path ["volume", "set", quota, path, amount]
  | lookup : Leads path ["pasxml", "volumes", "volume", path]

section Starting

/-- Programs may have been started in between, and all of them are such. -/
def Starts (P : Machine.Started → Prop) (h h' : Host (List Machine.Started × ω)) : Prop :=
  ∃ started, h'.outside.1 = h.outside.1 ++ started ∧ ∀ one ∈ started, P one

variable {P : Machine.Started → Prop}

instance : Std.Refl (Starts (ω := ω) P) := ⟨fun _ ↦ ⟨[], (List.append_nil _).symm, fun _ h ↦ nomatch h⟩⟩

instance : IsTrans (Host (List Machine.Started × ω)) (Starts P) where
  trans := by
    rintro h h' h'' ⟨first, hfirst, hgood⟩ ⟨rest, hrest, hgood'⟩
    refine ⟨first ++ rest, ?_, List.forall_mem_append.2 ⟨hgood, hgood'⟩⟩
    rw [hrest, hfirst, List.append_assoc]

theorem Session.run_starts (s : SessionSettings) (m : Machine ω) (secrets : Dictionary)
    {command : List String} (hcommand : ∀ one, Reads command one → P one) :
    (run s m.recording secrets command).Within (Starts P) := by
  intro h
  rcases run_started s m secrets command h with ⟨hsame, -⟩ | ⟨one, hone, hreads⟩
  · exact ⟨[], hsame.trans (List.append_nil _).symm, fun _ h ↦ nomatch h⟩
  · exact ⟨[one], hone, List.forall_mem_singleton.2 (hcommand one hreads)⟩

end Starting

namespace Remote

variable (s : SessionSettings) (m : Machine ω) (name : String)

def ReadsPath (name : String) (one : Machine.Started) : Prop :=
  ∃ command, Session.Reads command one ∧ Command.Leads (VolumeName.path name) command

variable {P : Machine.Started → Prop} (hP : ∀ one, ReadsPath name one → P one)
include hP

theorem run_starts (secrets : Dictionary) {command : List String}
    (hcommand : Command.Leads (VolumeName.path name) command) :
    (Session.run s m.recording secrets command).Within (Starts P) :=
  Session.run_starts s m secrets fun one hreads ↦ hP one ⟨command, hreads, hcommand⟩

theorem lookup_starts (secrets : Dictionary) : (lookup s m.recording name secrets).Within (Starts P) := by
  intro h
  rw [lookup_state]
  exact run_starts s m name hP secrets .lookup h

theorem create_starts_paths (parameters secrets : Dictionary) :
    (create s m.recording name parameters secrets).Within (Starts P) := by
  apply Action.Within.bind
  · exact run_starts s m name hP secrets (Command.create_eq name parameters ▸ .create _)
  · exact fun _ ↦ lookup_starts s m name hP secrets

theorem delete_starts (secrets : Dictionary) : (delete s m.recording name secrets).Within (Starts P) := by
  apply Action.Within.bind
  · exact run_starts s m name hP secrets .delete
  · exact fun _ ↦ .pure _

theorem expand_starts (bytes : Int) (secrets : Dictionary) :
    (expand s m.recording name bytes secrets).Within (Starts P) := by
  apply Action.Within.bind (lookup_starts s m name hP secrets)
  intro record
  apply Action.Within.forM
  intro command hcommand
  have hleads : Command.Leads (VolumeName.path name) command := by
    have hset := (growth_sublist record name (Quota.ofBytes bytes)).mem hcommand
    rw [List.mem_pair] at hset
    rcases hset with rfl | rfl
    · exact .setQuota _ _
    · exact .setQuota _ _
  apply Action.Within.bind
  · exact run_starts s m name hP secrets hleads
  · exact fun _ ↦ .pure _

end Remote

theorem Listing.name_ne_of_record_ok {part : Listing.Section} {r : VolumeRecord}
    (h : Listing.record part = .ok r) : r.name ≠ "" := by
  simp only [Listing.record, Except.bind_ok_iff, Except.guard_ok_iff] at h
  obtain ⟨read, -, hne, ⟨⟩⟩ := h
  exact hne

theorem Listing.name_ne_of_read_ok {document : String} {records : List VolumeRecord}
    (h : Listing.read document = .ok records) : ∀ r ∈ records, r.name ≠ "" := by
  rw [Listing.read, Except.mapM_ok_iff_forall₂] at h
  generalize Listing.findAll Listing.section? 0 document.toList = parts at h
  induction h with
  | nil =>
    intro r hr
    cases hr
  | cons hrecord _ ih => exact List.forall_mem_cons.2 ⟨name_ne_of_record_ok hrecord, ih⟩

theorem Remote.lookup_name {s : SessionSettings} {m : Machine ω} {name : String} {secrets : Dictionary}
    {h h' : Host ω} {record : VolumeRecord}
    (hok : (lookup s m name secrets).outcome h = (.ok record, h')) :
    record.name = VolumeName.strip name ∧ record.name ≠ "" := by
  obtain ⟨records, h₁, hread, hfound⟩ := Action.of_outcome_bind_ok hok
  obtain ⟨text, h₂, -, hrecords⟩ := Action.of_outcome_bind_ok hread
  have hnames := Listing.name_ne_of_read_ok (congrArg Prod.fst hrecords)
  cases hfind : records.find? (·.name = VolumeName.strip name) with
  | none =>
    rw [hfind] at hfound
    cases hfound
  | some found =>
    rw [hfind] at hfound
    cases hfound
    have hnamed := List.find?_some hfind
    exact ⟨of_decide_eq_true hnamed, hnames _ (List.mem_of_find?_eq_some hfind)⟩

namespace RealmMemory

def IsOwnName (key : String) (record : VolumeRecord) : Prop := record.name = key

variable {m : RealmMemory} {name : String} {parameters : Dictionary} {record : VolumeRecord}

theorem name_of_create_ok (h : ((create name parameters).outcome m).1 = .ok record) :
    record.name = VolumeName.strip name := by
  rw [create_outcome] at h
  cases hcreated : m.created name parameters with
  | error e =>
    rw [hcreated] at h
    cases h
  | ok created =>
    rw [hcreated] at h
    cases h
    exact created_name hcreated

theorem name_of_lookup_ok (hm : m.Stored IsOwnName) (h : ((lookup name).outcome m).1 = .ok record) :
    record.name = VolumeName.strip name := by
  rw [lookup_outcome] at h
  obtain ⟨_, -, hrecord⟩ := Except.bind_ok_iff.1 h
  cases hstored : m.record? name with
  | none =>
    rw [hstored] at hrecord
    cases hrecord
  | some stored =>
    rw [hstored] at hrecord
    cases hrecord
    exact hm _ _ hstored

end RealmMemory

namespace Plugin

theorem handle_create_ok {mode : Mode} {realm : Realm (Host ω)} {settings : PluginSettings}
    {mounter : Mounter ω} {annotator : Annotator (Host ω)} {t : Readiness × Host ω} {m : CreateMessage}
    {reply : Reply}
    (h : ((service settings realm mounter annotator).handle mode (.create m) t).1.result = .ok reply) :
    ∃ r c v, CreateRequest.ofMessage m = .ok r ∧ ((Creation.run realm r).outcome t.2).1 = .ok c ∧
      reply = .volume v ∧ v.id = c.volume.id := by
  cases hmode : mode.servesController with
  | false =>
    simp only [Service.handle, Call.isServed, hmode] at h
    cases h
  | true =>
    simp only [Service.handle, Call.isServed, hmode] at h
    obtain ⟨r, c, hr, hc, hreply⟩ := Service.respond_ok_iff.1 h
    rw [Volume.toMessage] at hreply
    split_ifs at hreply
    · cases hreply
    · cases hreply
      exact ⟨r, c, _, hr, hc, rfl, rfl⟩

section

variable {s : SessionSettings} {m : Machine ω} {settings : PluginSettings} {mode : Mode}
  {mounter : Mounter (List Machine.Started × ω)} {annotator : Annotator (Host (List Machine.Started × ω))}
  {t : Readiness × Host (List Machine.Started × ω)} {name : String}

theorem handle_starts {call : Call} (hname : call.volume? = some name) :
    Starts (fun one ↦ name ≠ "" ∧ Remote.ReadsPath name one) t.2
      ((service settings (Remote.realm s m.recording) mounter annotator).handle mode call t).2.2 := by
  have hcall : call.OnVolumes := by
    cases call with
    | create m => exact .create m
    | delete m => exact .delete m
    | validate m => exact .validate m
    | expand m => exact .expand m
    | _ => cases hname
  apply handle_within (R := Starts _) settings mounter annotator hcall
  · rintro message r rfl hr -
    obtain ⟨hne, -, cs, -, source, -, rfl⟩ := CreateRequest.ofMessage_ok_iff.1 hr
    cases hname
    exact Remote.create_starts_paths s m _ (fun _ hreads ↦ ⟨hne, hreads⟩) _ _
  · intro name' secrets hname' hne
    cases hname.symm.trans hname'
    exact Remote.delete_starts s m name (fun _ hreads ↦ ⟨hne, hreads⟩) secrets
  · intro name' secrets hname' hne
    cases hname.symm.trans hname'
    exact Remote.lookup_starts s m name (fun _ hreads ↦ ⟨hne, hreads⟩) secrets
  · rintro message r rfl hr -
    obtain ⟨hne, capacity, -, capability, -, rfl⟩ := ExpandRequest.ofMessage_ok_iff.1 hr
    cases hname
    exact Remote.expand_starts s m _ (fun _ hreads ↦ ⟨hne, hreads⟩) _ _

theorem id_of_remote_create_ok {message : CreateMessage} {reply : Reply}
    (h : ((service settings (Remote.realm s m.recording) mounter annotator).handle mode
      (.create message) t).1.result = .ok reply) :
    ∃ v, reply = .volume v ∧ v.id = VolumeName.strip message.name ∧ v.id ≠ "" := by
  obtain ⟨r, c, v, hr, hc, hreply, hid⟩ := handle_create_ok h
  obtain ⟨-, -, cs, -, source, -, rfl⟩ := CreateRequest.ofMessage_ok_iff.1 hr
  have hrecord : ∃ record, c.volume = Creation.volume record ∧
      (record.name = VolumeName.strip message.name ∧ record.name ≠ "") := by
    refine Creation.exists_record_of_run_ok (I := fun _ ↦ True) (fun _ _ ↦ trivial) ?_ ?_ trivial hc
    · intro h h' record _ hcreated
      obtain ⟨text, h₁, -, hlookup⟩ := Action.of_outcome_bind_ok hcreated
      exact Remote.lookup_name hlookup
    · exact fun h h' record _ hlookup ↦ Remote.lookup_name hlookup
  obtain ⟨record, hrecord, hname⟩ := hrecord
  refine ⟨v, hreply, ?_⟩
  rw [hid, hrecord]
  exact hname

end

/-- What can happen to the volumes of a realm in memory beside the calls on them: one is put there. -/
def Puts (get : Host ω → RealmMemory) (t t' : Readiness × Host ω) : Prop :=
  (get t'.2).volumes = (get t.2).volumes ∨
    ∃ record, (get t'.2).volumes = (RealmMemory.insert record (get t.2)).volumes

variable {get : Host ω → RealmMemory} {set : RealmMemory → Host ω → Host ω} {settings : PluginSettings}
  {mode : Mode}

theorem stored_run {mounter : Mounter ω} {annotator : Annotator (Host ω)}
    (hset : ∀ m host, (get (set m host)).volumes = m.volumes) {t t' : Readiness × Host ω}
    (hrun : Service.Run (service settings (RealmMemory.realm.within get set) mounter annotator) mode
      Call.OnVolumes (Puts get) t t')
    (hempty : (get t.2).volumes = ∅) : (get t'.2).Stored RealmMemory.IsOwnName := by
  apply hrun.invariant (P := (RealmMemory.Stored RealmMemory.IsOwnName ∘ get) ∘ Prod.snd)
  · -- no call stores a record under another name
    intro call hcall t
    apply handle_within (R := Keeping (RealmMemory.Stored RealmMemory.IsOwnName ∘ get)) settings mounter
      annotator hcall
    · intro m r _ _ _
      exact on_stored hset (RealmMemory.create_stored fun _ _ ↦ RealmMemory.created_name)
    · exact fun _ _ _ _ ↦ on_stored hset RealmMemory.delete_stored
    · exact fun _ _ _ _ ↦ on_stored hset RealmMemory.lookup_stored
    · exact fun _ _ _ _ _ ↦ on_stored hset (RealmMemory.expand_stored fun _ _ hname ↦ hname)
  · rintro t t' (hsame | ⟨record, hput⟩) hstored
    · exact RealmMemory.stored_of_volumes_eq hsame hstored
    · refine RealmMemory.stored_of_volumes_eq hput ?_
      refine RealmMemory.Stored.changed hstored (some record) ?_ (RealmMemory.insert_volumes _ record)
      rintro _ ⟨⟩
      rfl
  · exact RealmMemory.stored_of_empty hempty

theorem id_of_memory_create_ok {mounter : Mounter ω} {annotator : Annotator (Host ω)}
    (hset : ∀ m host, (get (set m host)).volumes = m.volumes) {t : Readiness × Host ω}
    (hstored : (get t.2).Stored RealmMemory.IsOwnName) {m : CreateMessage} {reply : Reply}
    (h : ((service settings (RealmMemory.realm.within get set) mounter annotator).handle mode
      (.create m) t).1.result = .ok reply) :
    ∃ v, reply = .volume v ∧ v.id = VolumeName.strip m.name := by
  obtain ⟨r, c, v, hr, hc, hreply, hid⟩ := handle_create_ok h
  obtain ⟨-, -, cs, -, source, -, rfl⟩ := CreateRequest.ofMessage_ok_iff.1 hr
  have hrecord : ∃ record, c.volume = Creation.volume record ∧ record.name = VolumeName.strip m.name := by
    refine Creation.exists_record_of_run_ok (I := RealmMemory.Stored RealmMemory.IsOwnName ∘ get)
      (on_stored hset (RealmMemory.create_stored fun _ _ ↦ RealmMemory.created_name)) ?_ ?_ hstored hc
    · intro host host' record _ hcreated
      exact RealmMemory.name_of_create_ok (congrArg Prod.fst hcreated)
    · intro host host' record hkept hlookup
      exact RealmMemory.name_of_lookup_ok hkept (congrArg Prod.fst hlookup)
  obtain ⟨record, hrecord, hname⟩ := hrecord
  refine ⟨v, hreply, ?_⟩
  rw [hid, hrecord]
  exact hname

/-- **A call on a volume leads to the directory of its name.** That is a path below the root just if the name
has something other than separators, but a name of separators alone is taken, too: its path is the root, and
in memory there is even a volume of that name, whose id no other call takes. -/
theorem calls_lead_to_paths (settings : PluginSettings) (mode : Mode) :
    (∀ (s : SessionSettings) (m : Machine ω) (mounter : Mounter (List Machine.Started × ω))
      (annotator : Annotator (Host (List Machine.Started × ω)))
      (t : Readiness × Host (List Machine.Started × ω)) (call : Call) (name : String),
      call.volume? = some name →
      let done := (service settings (Remote.realm s m.recording) mounter annotator).handle mode call t
      (∃ started, done.2.2.outside.1 = t.2.outside.1 ++ started ∧ ∀ one ∈ started, name ≠ "" ∧
        ∃ command, Session.Reads command one ∧ Command.Leads (VolumeName.path name) command) ∧
      ∀ message reply, call = .create message → done.1.result = .ok reply →
        ∃ v, reply = .volume v ∧ v.id = VolumeName.strip name ∧ IsVolumeId v.id) ∧
    (∀ (get : Host ω → RealmMemory) (set : RealmMemory → Host ω → Host ω) (mounter : Mounter ω)
      (annotator : Annotator (Host ω)) (t t' : Readiness × Host ω),
      (∀ m host, (get (set m host)).volumes = m.volumes) → (get t.2).volumes = ∅ →
      let realm := RealmMemory.realm.within get set
      Service.Run (service settings realm mounter annotator) mode Call.OnVolumes (Puts get) t t' →
      ∀ message reply,
        ((service settings realm mounter annotator).handle mode (.create message) t').1.result = .ok reply →
        ∃ v, reply = .volume v ∧ v.id = VolumeName.strip message.name ∧
          (IsVolumeId v.id ↔ IsProperName message.name)) ∧
    ∀ name, (IsBelowRoot (VolumeName.path name) ↔ IsProperName name) ∧
      (¬IsProperName name → VolumeName.path name = "/") := by
  refine ⟨?_, ?_, fun name ↦ ⟨VolumeName.isBelowRoot_path_iff, VolumeName.path_of_not_proper⟩⟩
  · intro s m mounter annotator t call name hname done
    refine ⟨handle_starts hname, ?_⟩
    rintro message reply rfl hreply
    cases hname
    obtain ⟨v, hv, hid, hne⟩ := id_of_remote_create_ok hreply
    exact ⟨v, hv, hid, isVolumeId_iff.2 hne⟩
  · intro get set mounter annotator t t' hset hempty realm hrun message reply hreply
    obtain ⟨v, hv, hid⟩ := id_of_memory_create_ok hset (stored_run hset hrun hempty) hreply
    refine ⟨v, hv, hid, ?_⟩
    rw [isVolumeId_iff, hid, VolumeName.strip_ne_empty_iff]

def remotely : Service (Readiness × Host (List Machine.Started × Script)) :=
  service ⟨"panfs", "node", "ready", "/tmp"⟩
    (Remote.realm ⟨30, none, "/tmp"⟩ Script.machine.recording)
    (HostMounter.mounter ⟨"/bin/mount", "/bin/umount"⟩ Script.machine.recording) .idle

def unstarted : Readiness × Host (List Machine.Started × Script) :=
  ({}, ⟨Remote.workstation.files, [], Remote.workstation.outside⟩)

theorem calls_lead_to_paths_of_proper :
    (∃ one command, (remotely.handle .all (.delete deletion) unstarted).2.2.outside.1 = [one] ∧
      Session.Reads command one ∧ Command.Leads "/a" command ∧ IsBelowRoot "/a") ∧
    ∃ v, (inMemory.handle .all (.create creation) vacant).1.result = .ok (.volume v) ∧ v.id = "a" ∧
      IsVolumeId v.id := by
  let settings : PluginSettings := ⟨"panfs", "node", "ready", "/tmp"⟩
  obtain ⟨hremote, -, hpath⟩ := calls_lead_to_paths (ω := Script) settings .all
  obtain ⟨-, hmemory, -⟩ := calls_lead_to_paths (ω := RealmMemory × MountMemory) settings .all
  have hproper : IsProperName "/a" := ⟨'a', by decide, by decide⟩
  constructor
  · obtain ⟨⟨started, hstarted, hleads⟩, -⟩ := hremote ⟨30, none, "/tmp"⟩ Script.machine
      (HostMounter.mounter ⟨"/bin/mount", "/bin/umount"⟩ Script.machine.recording) .idle unstarted
      (.delete deletion) "a" rfl
    have hone : (remotely.handle .all (.delete deletion) unstarted).2.2.outside.1.length = 1 := by
      decide +kernel
    obtain ⟨one, hone⟩ := List.length_eq_one_iff.1 hone
    have hmem : one ∈ started := by
      rw [← List.nil_append started]
      exact hstarted ▸ hone ▸ List.mem_singleton.2 rfl
    obtain ⟨-, command, hreads, hcommand⟩ := hleads one hmem
    exact ⟨one, command, hone, hreads, hcommand, (hpath "a").1.2 ⟨'a', by decide, by decide⟩⟩
  · have hok : (inMemory.handle .all (.create creation) vacant).1.result.isOk = true := by decide +kernel
    obtain ⟨reply, hreply⟩ := Except.isOk_iff.1 hok
    rw [inMemory] at hreply ⊢
    have hcreated := hmemory memory setMemory (MountMemory.mounter Prod.snd fun m o ↦ (o.1, m)) .idle
      vacant vacant (fun m host ↦ congrArg RealmMemory.volumes (memory_setMemory m host)) rfl .refl creation
    -- the handler is not to be unfolded
    obtain ⟨v, rfl, hid, hvolume⟩ := hcreated reply (by with_reducible exact hreply)
    exact ⟨v, by with_reducible exact hreply, hid, hvolume.2 hproper⟩

/-- A name of separators alone leads to the root: a deletion is sent there, and a volume is created that no
call can be made about. -/
theorem separators_lead_to_root :
    (∃ done one, remotely.handle .all (.delete ⟨"/", Validation.adminSecrets⟩) unstarted = done ∧
      done.1.result.isOk = true ∧ done.2.2.outside.1 = [one] ∧
      Session.Reads ["volume", "delete", "/", "force"] one ∧ ¬IsBelowRoot "/") ∧
    ∃ v, (inMemory.handle .all (.create { creation with name := "/" }) vacant).1.result =
        .ok (.volume v) ∧ v.id = "" ∧ ¬IsVolumeId v.id := by
  constructor
  · let done := remotely.handle .all (.delete ⟨"/", Validation.adminSecrets⟩) unstarted
    have hlines : done.2.2.outside.1.map (fun one ↦ one.1.arguments.getLast?.bind Shell.words?) =
        [some ["volume", "delete", "/", "force"]] := by
      decide +kernel
    obtain ⟨one, hone, hline⟩ := List.map_eq_singleton_iff.1 hlines
    refine ⟨done, one, rfl, by decide +kernel, hone, Option.bind_eq_some_iff.1 hline, ?_⟩
    rintro ⟨rest, hrest, hne, -⟩
    exact hne ((String.append_right_inj "/").1 (String.append_empty.trans hrest)).symm
  · have hok : (inMemory.handle .all (.create { creation with name := "/" }) vacant).1.result.isOk =
        true := by decide +kernel
    obtain ⟨reply, hreply⟩ := Except.isOk_iff.1 hok
    rw [inMemory] at hreply ⊢
    have hvacant : (memory vacant.2).Stored RealmMemory.IsOwnName := RealmMemory.stored_of_empty rfl
    obtain ⟨v, rfl, hid⟩ := id_of_memory_create_ok
      (fun m host ↦ congrArg RealmMemory.volumes (memory_setMemory m host)) hvacant
      (by with_reducible exact hreply)
    exact ⟨v, by with_reducible exact hreply, hid, fun h ↦ isVolumeId_iff.1 h hid⟩

end Plugin

end RealmDriver
