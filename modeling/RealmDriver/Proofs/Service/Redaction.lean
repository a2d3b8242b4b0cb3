import Mathlib.Tactic.MkIffOfInductiveProp
import RealmDriver.Mount.Point
import RealmDriver.Node.Request
import RealmDriver.Proofs.Text.Legible

namespace RealmDriver

open Text (Ends Legible ShownField)

namespace Dictionary

variable {d d' : Dictionary}

/-- Something is under the same keys, and it may be something else. -/
def SameKeys (d d' : Dictionary) : Prop := ∀ k, k ∈ d ↔ k ∈ d'

theorem keys_eq_iff : d.keys = d'.keys ↔ d.SameKeys d' := by
  constructor
  · intro h k
    rw [← Std.ExtTreeMap.mem_keys, h, Std.ExtTreeMap.mem_keys]
  · intro h
    have hsame : d.map (fun _ _ ↦ ()) = d'.map (fun _ _ ↦ ()) := by
      apply Std.ExtTreeMap.ext_getElem?
      intro k
      have hk := h k
      rw [Std.ExtTreeMap.mem_iff_isSome_getElem?, Std.ExtTreeMap.mem_iff_isSome_getElem?] at hk
      rw [Std.ExtTreeMap.getElem?_map, Std.ExtTreeMap.getElem?_map]
      cases hd : d[k]? with
      | none => simpa [hd] using hk
      | some v =>
        rw [hd] at hk
        obtain ⟨v', hv'⟩ := Option.isSome_iff_exists.1 (hk.1 rfl)
        rw [hv']
        rfl
    rw [← Std.ExtTreeMap.keys_map (t := d) (f := fun _ _ ↦ ()), hsame, Std.ExtTreeMap.keys_map]

end Dictionary

theorem Path.same_of_eq {p q : Path} (h : p = q) : same p q = true := by
  subst h
  exact decide_eq_true rfl

theorem ends_colon (x : List Char) : Ends (": ".toList ++ x) := Text.ends_cons (by decide)

theorem printedSecrets_legible : Legible Dictionary.SameKeys printedSecrets := by
  have hentry : Legible (fun k k' : String ↦ k = k' ∧ True)
      fun k ↦ Text.quoted k ++ ": " ++ Text.quoted "SECRET" :=
    Legible.quoted.both (.const _) ": " ends_colon
  refine ((Legible.entries (fun k ↦ (k, Text.quoted "SECRET")) hentry).comap
    Std.ExtTreeMap.keys).congr fun d d' ↦ ?_
  simp only [and_true]
  rw [List.forall₂_eq_eq_eq, Dictionary.keys_eq_iff]

namespace Dictionary.Listing

variable {d d' : Dictionary} {l : d.Listing}

theorem eq_of_entries {l' : d'.Listing} (h : l.entries = l'.entries) : d = d' :=
  Std.ExtTreeMap.ext_toList (l.perm.symm.trans (h ▸ l'.perm))

variable (l) in
theorem exists_of_eq (h : d = d') : ∃ l' : d'.Listing, l'.entries = l.entries := by
  subst h
  exact ⟨l, rfl⟩

theorem legible : Legible Eq fun entries : List (String × String) ↦
    Text.printedEntries (entries.map fun e ↦ (e.1, Text.quoted e.2)) := by
  have hentry : Legible (fun e e' : String × String ↦ e.1 = e'.1 ∧ e.2 = e'.2)
      fun e ↦ Text.quoted e.1 ++ ": " ++ Text.quoted e.2 :=
    (Legible.quoted.comap Prod.fst).both (Legible.quoted.comap Prod.snd) ": " ends_colon
  have hentries := Legible.entries (fun e : String × String ↦ (e.1, Text.quoted e.2)) hentry
  refine hentries.congr fun es es' ↦ ?_
  simp only [← Prod.ext_iff]
  rw [List.forall₂_eq_eq_eq]

end Dictionary.Listing

namespace Access

/-- The same way to a volume's content, with as many mount flags. -/
inductive Alike : Access → Access → Prop
  | block : Alike .block .block
  | mount {fsType : Option String} {flags flags' : List String} (h : flags.length = flags'.length) :
    Alike (.mount fsType flags) (.mount fsType flags')

def redaction (n : Nat) : String := s!"REDACTED ({n} items)"

theorem redaction_inj (n m : Nat) (h : redaction n = redaction m) : n = m :=
  Legible.nat.eq_iff.1 ((String.append_right_inj _).1 ((String.append_left_inj _).1 h))

def mountFields : List (ShownField (Option String × List String)) :=
  [.of "fs_type" Legible.quoted.optionEq Prod.fst,
    .of "mount_flags" (Legible.quotedBy redaction_inj) fun m ↦ m.2.length]

theorem mount_legible : Legible (fun m m' : Option String × List String ↦ ∀ f ∈ mountFields, f.same m m')
    fun m ↦ printed (.mount m.1 m.2) :=
  ((Legible.record "MountVolume" mountFields).prefixed "Mount(").suffixed ")" fun _ ↦
    Text.ends_cons (by decide)

theorem forall_mountFields {m m' : Option String × List String} :
    (∀ f ∈ mountFields, f.same m m') ↔ m.1 = m'.1 ∧ m.2.length = m'.2.length := by
  simp [mountFields]

theorem legible : Legible Alike printed where
  shows a b hab := by
    cases hab with
    | block => rfl
    | mount h => exact mount_legible.shows (_, _) (_, _) (forall_mountFields.2 ⟨rfl, h⟩)
  told a b x y hx hy heq := by
    cases a with
    | block =>
      cases b with
      | block => exact ⟨.block, List.append_cancel_left heq⟩
      | mount fsType flags =>
        simp only [printed, String.toList_append] at heq
        exact absurd (List.cons.inj heq).1 (by decide)
    | mount fsType flags =>
      cases b with
      | block =>
        simp only [printed, String.toList_append] at heq
        exact absurd (List.cons.inj heq).1 (by decide)
      | mount fsType' flags' =>
        obtain ⟨hsame, hxy⟩ := mount_legible.told (fsType, flags) (fsType', flags') x y hx hy heq
        obtain ⟨rfl, hlength⟩ := forall_mountFields.1 hsame
        exact ⟨.mount hlength, hxy⟩

end Access

theorem AccessMode.name_legible : Legible Eq AccessMode.name where
  shows _ _ := congrArg _
  told a b x y _ _ heq := by
    -- no name is the beginning of another one
    have hall : ∀ a ∈ AccessMode.all, ∀ b ∈ AccessMode.all,
        (a.name.toList <+: b.name.toList) → a = b := by decide +kernel
    have hmem (m : AccessMode) : m ∈ AccessMode.all := by cases m <;> decide
    have hab : a = b := by
      rcases List.prefix_or_prefix_of_prefix (heq ▸ List.prefix_append _ x) (List.prefix_append _ y) with h | h
      · exact hall a (hmem a) b (hmem b) h
      · exact (hall b (hmem b) a (hmem a) h).symm
    subst hab
    exact ⟨rfl, List.append_cancel_left heq⟩

namespace Capability

@[mk_iff]
structure Alike (c c' : Capability) : Prop where
  mode : c.mode = c'.mode
  access : c.access.Alike c'.access

def fields : List (ShownField Capability) :=
  [.of "access_mode" AccessMode.name_legible mode, .of "access_type" Access.legible access]

theorem legible : Legible Alike printed := by
  refine (Legible.record "VolumeCapability" fields).congr fun c c' ↦ ?_
  simp [fields, alike_iff]

theorem list_legible : Legible (List.Forall₂ Alike) (Text.printedList printed) := by
  apply legible.list
  intro c
  simp only [printed, Text.printedRecord, String.append_assoc, String.toList_append]
  exact ⟨'V', _, rfl, by decide⟩

end Capability

theorem CapacityRange.legible : Legible Eq CapacityRange.printed := by
  let fields : List (ShownField CapacityRange) :=
    [.of "required_bytes" Legible.int fun r ↦ r.required.toInt,
      .of "limit_bytes" Legible.int fun r ↦ r.limit.toInt]
  refine (Legible.record "CapacityRange" fields).congr fun r r' ↦ ?_
  cases r
  cases r'
  simp [fields, Int64.toInt_inj]

theorem ContentSource.legible : Legible Eq ContentSource.printed where
  shows _ _ := congrArg _
  told a b x y hx hy heq := by
    have hparen : ∀ x, Ends (")".toList ++ x) := fun x ↦ Text.ends_cons (by decide)
    cases a with
    | volume id =>
      cases b with
      | volume id' =>
        have hlegible := (Legible.quoted.prefixed "Volume(").suffixed ")" hparen
        obtain ⟨rfl, hxy⟩ := hlegible.told id id' x y hx hy heq
        exact ⟨rfl, hxy⟩
      | snapshot id' =>
        simp only [printed, String.toList_append] at heq
        exact absurd (List.cons.inj heq).1 (by decide)
    | snapshot id =>
      cases b with
      | volume id' =>
        simp only [printed, String.toList_append] at heq
        exact absurd (List.cons.inj heq).1 (by decide)
      | snapshot id' =>
        have hlegible := (Legible.quoted.prefixed "Snapshot(").suffixed ")" hparen
        obtain ⟨rfl, hxy⟩ := hlegible.told id id' x y hx hy heq
        exact ⟨rfl, hxy⟩

namespace CreateRequest

/-- The same but for what is under the keys of the secrets and for the texts of mount flags. Dictionaries
are the same if they have the same entries, and paths if they have the same components. -/
@[mk_iff]
structure Alike (r r' : CreateRequest) : Prop where
  name : r.name = r'.name
  capacity : r.capacity = r'.capacity
  capabilities : List.Forall₂ Capability.Alike r.capabilities r'.capabilities
  parameters : r.parameters = r'.parameters
  secrets : r.secrets.SameKeys r'.secrets
  source : r.source = r'.source

def fields : List (ShownField ((r : CreateRequest) × r.parameters.Listing)) :=
  [.of "name" Legible.quoted (·.1.name),
    .of "capacity_range" CapacityRange.legible.optionEq (·.1.capacity),
    .of "volume_capabilities" Capability.list_legible (·.1.capabilities),
    .of "parameters" Dictionary.Listing.legible (·.2.entries),
    .of "secrets" printedSecrets_legible (·.1.secrets),
    .of "volume_content_source" ContentSource.legible.optionEq (·.1.source)]

theorem printed_eq_iff {r r' : CreateRequest} {l : r.parameters.Listing} {l' : r'.parameters.Listing} :
    r.printed l = r'.printed l' ↔ r.Alike r' ∧ l.entries = l'.entries := by
  have htext (r : CreateRequest) (l : r.parameters.Listing) : r.printed l =
    Text.printedRecord "CreateVolumeRequest" (fields.map (ShownField.text ⟨r, l⟩)) := rfl
  rw [htext, htext, (Legible.record "CreateVolumeRequest" fields).eq_iff]
  simp only [fields, List.forall_mem_cons, ShownField.of_same, List.not_mem_nil, false_imp_iff,
    implies_true, and_true, alike_iff]
  constructor
  · rintro ⟨hname, hcapacity, hcapabilities, hentries, hsecrets, hsource⟩
    exact ⟨⟨hname, hcapacity, hcapabilities, l.eq_of_entries hentries, hsecrets, hsource⟩, hentries⟩
  · rintro ⟨⟨hname, hcapacity, hcapabilities, -, hsecrets, hsource⟩, hentries⟩
    exact ⟨hname, hcapacity, hcapabilities, hentries, hsecrets, hsource⟩

end CreateRequest

namespace DeleteRequest

@[mk_iff]
structure Alike (r r' : DeleteRequest) : Prop where
  volumeId : r.volumeId = r'.volumeId
  secrets : r.secrets.SameKeys r'.secrets

def fields : List (ShownField DeleteRequest) :=
  [.of "volume_id" Legible.quoted volumeId, .of "secrets" printedSecrets_legible secrets]

theorem printed_eq_iff {r r' : DeleteRequest} : r.printed = r'.printed ↔ r.Alike r' := by
  refine (Legible.record "DeleteVolumeRequest" fields).eq_iff.trans ?_
  simp [fields, alike_iff]

end DeleteRequest

namespace ValidateRequest

@[mk_iff]
structure Alike (r r' : ValidateRequest) : Prop where
  volumeId : r.volumeId = r'.volumeId
  context : r.context = r'.context
  capabilities : List.Forall₂ Capability.Alike r.capabilities r'.capabilities
  parameters : r.parameters = r'.parameters
  secrets : r.secrets.SameKeys r'.secrets

def fields :
    List (ShownField ((r : ValidateRequest) × r.context.Listing × r.parameters.Listing)) :=
  [.of "volume_id" Legible.quoted (·.1.volumeId),
    .of "volume_context" Dictionary.Listing.legible (·.2.1.entries),
    .of "volume_capabilities" Capability.list_legible (·.1.capabilities),
    .of "parameters" Dictionary.Listing.legible (·.2.2.entries),
    .of "secrets" printedSecrets_legible (·.1.secrets)]

theorem printed_eq_iff {r r' : ValidateRequest} {c : r.context.Listing} {c' : r'.context.Listing}
    {l : r.parameters.Listing} {l' : r'.parameters.Listing} : r.printed c l = r'.printed c' l' ↔
      r.Alike r' ∧ c.entries = c'.entries ∧ l.entries = l'.entries := by
  have htext (r : ValidateRequest) (c : r.context.Listing) (l : r.parameters.Listing) : r.printed c l =
    Text.printedRecord "ValidateVolumeCapabilitiesRequest" (fields.map (ShownField.text ⟨r, c, l⟩)) := rfl
  rw [htext, htext, (Legible.record "ValidateVolumeCapabilitiesRequest" fields).eq_iff]
  simp only [fields, List.forall_mem_cons, ShownField.of_same, List.not_mem_nil, false_imp_iff,
    implies_true, and_true, alike_iff]
  constructor
  · rintro ⟨hid, hcontext, hcapabilities, hentries, hsecrets⟩
    exact ⟨⟨hid, c.eq_of_entries hcontext, hcapabilities, l.eq_of_entries hentries, hsecrets⟩, hcontext,
      hentries⟩
  · rintro ⟨⟨hid, -, hcapabilities, -, hsecrets⟩, hcontext, hentries⟩
    exact ⟨hid, hcontext, hcapabilities, hentries, hsecrets⟩

end ValidateRequest

namespace ExpandRequest

@[mk_iff]
structure Alike (r r' : ExpandRequest) : Prop where
  volumeId : r.volumeId = r'.volumeId
  capacity : r.capacity = r'.capacity
  secrets : r.secrets.SameKeys r'.secrets
  capability : Option.Rel Capability.Alike r.capability r'.capability

def fields : List (ShownField ExpandRequest) :=
  [.of "volume_id" Legible.quoted volumeId,
    .of "capacity_range" CapacityRange.legible capacity,
    .of "secrets" printedSecrets_legible secrets,
    .of "volume_capability" Capability.legible.option capability]

theorem printed_eq_iff {r r' : ExpandRequest} : r.printed = r'.printed ↔ r.Alike r' := by
  refine (Legible.record "ControllerExpandVolumeRequest" fields).eq_iff.trans ?_
  simp [fields, alike_iff]

end ExpandRequest

namespace PublishRequest

@[mk_iff]
structure Alike (r r' : PublishRequest) : Prop where
  volumeId : r.volumeId = r'.volumeId
  target : Path.same r.target r'.target = true
  capability : r.capability.Alike r'.capability
  readonly : r.readonly = r'.readonly
  secrets : r.secrets.SameKeys r'.secrets
  context : r.context = r'.context

def fields : List (ShownField ((r : PublishRequest) × r.context.Listing)) :=
  [.of "volume_id" Legible.quoted (·.1.volumeId),
    .of "target_path" Legible.quoted (·.1.target),
    .of "volume_capability" Capability.legible (·.1.capability),
    .of "readonly" Legible.bool (·.1.readonly),
    .of "secrets" printedSecrets_legible (·.1.secrets),
    .of "volume_context" Dictionary.Listing.legible (·.2.entries)]

theorem printed_eq_iff {r r' : PublishRequest} {c : r.context.Listing} {c' : r'.context.Listing} :
    r.printed c = r'.printed c' ↔
      r.Alike r' ∧ c.entries = c'.entries ∧ r.target = r'.target := by
  have htext (r : PublishRequest) (c : r.context.Listing) : r.printed c =
    Text.printedRecord "NodePublishVolumeRequest" (fields.map (ShownField.text ⟨r, c⟩)) := rfl
  rw [htext, htext, (Legible.record "NodePublishVolumeRequest" fields).eq_iff]
  simp only [fields, List.forall_mem_cons, ShownField.of_same, List.not_mem_nil, false_imp_iff,
    implies_true, and_true, alike_iff]
  constructor
  · rintro ⟨hid, htarget, hcapability, hreadonly, hsecrets, hentries⟩
    exact ⟨⟨hid, Path.same_of_eq htarget, hcapability, hreadonly, hsecrets, c.eq_of_entries hentries⟩,
      hentries, htarget⟩
  · rintro ⟨⟨hid, -, hcapability, hreadonly, hsecrets, -⟩, hentries, htarget⟩
    exact ⟨hid, htarget, hcapability, hreadonly, hsecrets, hentries⟩

end PublishRequest

namespace MountPoint

@[mk_iff]
structure Alike (m m' : MountPoint) : Prop where
  device : m.device = m'.device
  path : Path.same m.path m'.path = true
  fsType : m.fsType = m'.fsType
  options : m.options.length = m'.options.length
  frequency : m.frequency = m'.frequency
  pass : m.pass = m'.pass

def optionsText (n : Nat) : String := s!"length={n}"

theorem optionsText_inj (n m : Nat) (h : optionsText n = optionsText m) : n = m :=
  Legible.nat.eq_iff.1 ((String.append_right_inj _).1 h)

def fields : List (ShownField MountPoint) :=
  [.of "device" Legible.quoted device,
    .of "path" Legible.quoted path,
    .of "type" Legible.quoted fsType,
    .of "opts" (Legible.quotedBy optionsText_inj) fun m ↦ m.options.length,
    .of "freq" Legible.int frequency,
    .of "pass" Legible.int pass]

theorem printed_eq_iff {m m' : MountPoint} :
    m.printed = m'.printed ↔ m.Alike m' ∧ m.path = m'.path := by
  refine (Legible.record "MountPoint" fields).eq_iff.trans ?_
  simp only [fields, List.forall_mem_cons, ShownField.of_same, List.not_mem_nil, false_imp_iff,
    implies_true, and_true, alike_iff]
  constructor
  · rintro ⟨hdevice, hpath, hrest⟩
    exact ⟨⟨hdevice, Path.same_of_eq hpath, hrest⟩, hpath⟩
  · rintro ⟨⟨hdevice, -, hrest⟩, hpath⟩
    exact ⟨hdevice, hpath, hrest⟩

end MountPoint

/-- The requests that are recorded with secrets or mount flags in them. -/
inductive TypedRequest where
  | create (r : CreateRequest)
  | delete (r : DeleteRequest)
  | validate (r : ValidateRequest)
  | expand (r : ExpandRequest)
  | publish (r : PublishRequest)

namespace TypedRequest

/-- The orders in which a request may tell the entries of its dictionaries. -/
def Order : TypedRequest → Type
  | create r => r.parameters.Listing
  | delete _ => Unit
  | validate r => r.context.Listing × r.parameters.Listing
  | expand _ => Unit
  | publish r => r.context.Listing

def printed : (r : TypedRequest) → r.Order → String
  | create r, parameters => r.printed parameters
  | delete r, _ => r.printed
  | validate r, (context, parameters) => r.printed context parameters
  | expand r, _ => r.printed
  | publish r, context => r.printed context

def listed : (r : TypedRequest) → r.Order → List (List (String × String))
  | create _, parameters => [parameters.entries]
  | delete _, _ => []
  | validate _, (context, parameters) => [context.entries, parameters.entries]
  | expand _, _ => []
  | publish _, context => [context.entries]

def target? : TypedRequest → Option Path
  | publish r => some r.target
  | _ => none

/-- The same request but for what is under the keys of its secrets and for the texts of mount flags. -/
inductive Alike : TypedRequest → TypedRequest → Prop
  | create {r r' : CreateRequest} (h : r.Alike r') : Alike (.create r) (.create r')
  | delete {r r' : DeleteRequest} (h : r.Alike r') : Alike (.delete r) (.delete r')
  | validate {r r' : ValidateRequest} (h : r.Alike r') : Alike (.validate r) (.validate r')
  | expand {r r' : ExpandRequest} (h : r.Alike r') : Alike (.expand r) (.expand r')
  | publish {r r' : PublishRequest} (h : r.Alike r') : Alike (.publish r) (.publish r')

def initials : TypedRequest → List Char
  | create _ => ['C', 'r']
  | delete _ => ['D', 'e']
  | validate _ => ['V', 'a']
  | expand _ => ['C', 'o']
  | publish _ => ['N', 'o']

theorem take_printed (r : TypedRequest) (o : r.Order) :
    (r.printed o).toList.take 2 = r.initials := by
  have hrecord (name : String) (fields : List (String × String)) (hname : 2 ≤ name.toList.length) :
      (Text.printedRecord name fields).toList.take 2 = name.toList.take 2 := by
    simp only [Text.printedRecord, String.toList_append, List.append_assoc]
    exact List.take_append_of_le_length hname
  cases r with
  | create r => exact hrecord "CreateVolumeRequest" _ (by decide)
  | delete r => exact hrecord "DeleteVolumeRequest" _ (by decide)
  | validate r => exact hrecord "ValidateVolumeCapabilitiesRequest" _ (by decide)
  | expand r => exact hrecord "ControllerExpandVolumeRequest" _ (by decide)
  | publish r => exact hrecord "NodePublishVolumeRequest" _ (by decide)

variable {r r' : TypedRequest} {o : r.Order} {o' : r'.Order}

theorem alike_of_printed_eq (h : r.printed o = r'.printed o') :
    r.Alike r' ∧ r.listed o = r'.listed o' ∧ r.target? = r'.target? := by
  have hinitials : r.initials = r'.initials := by rw [← take_printed r o, h, take_printed]
  cases r with
  | create r =>
    cases r' with
    | create r' =>
      obtain ⟨halike, hlisted⟩ := CreateRequest.printed_eq_iff.1 h
      exact ⟨.create halike, congrArg ([·]) hlisted, rfl⟩
    | _ => simp [initials] at hinitials
  | delete r =>
    cases r' with
    | delete r' => exact ⟨.delete (DeleteRequest.printed_eq_iff.1 h), rfl, rfl⟩
    | _ => simp [initials] at hinitials
  | validate r =>
    cases r' with
    | validate r' =>
      obtain ⟨halike, hcontext, hparameters⟩ := ValidateRequest.printed_eq_iff.1 h
      exact ⟨.validate halike, congrArg₂ ([·, ·]) hcontext hparameters, rfl⟩
    | _ => simp [initials] at hinitials
  | expand r =>
    cases r' with
    | expand r' => exact ⟨.expand (ExpandRequest.printed_eq_iff.1 h), rfl, rfl⟩
    | _ => simp [initials] at hinitials
  | publish r =>
    cases r' with
    | publish r' =>
      obtain ⟨halike, hlisted, htarget⟩ := PublishRequest.printed_eq_iff.1 h
      exact ⟨.publish halike, congrArg ([·]) hlisted, congrArg some htarget⟩
    | _ => simp [initials] at hinitials

theorem printed_eq_iff : r.printed o = r'.printed o' ↔
    r.Alike r' ∧ r.listed o = r'.listed o' ∧ r.target? = r'.target? := by
  refine ⟨alike_of_printed_eq, ?_⟩
  rintro ⟨halike, hlisted, htarget⟩
  cases halike with
  | create h => exact CreateRequest.printed_eq_iff.2 ⟨h, List.singleton_inj.1 hlisted⟩
  | delete h => exact DeleteRequest.printed_eq_iff.2 h
  | validate h =>
    obtain ⟨hcontext, hrest⟩ := List.cons.inj hlisted
    exact ValidateRequest.printed_eq_iff.2 ⟨h, hcontext, List.singleton_inj.1 hrest⟩
  | expand h => exact ExpandRequest.printed_eq_iff.2 h
  | publish h =>
    exact PublishRequest.printed_eq_iff.2 ⟨h, List.singleton_inj.1 hlisted, Option.some_inj.1 htarget⟩

def Order.sorted : (r : TypedRequest) → r.Order
  | create r => Dictionary.Listing.sorted r.parameters
  | delete _ => ()
  | validate r => (.sorted r.context, .sorted r.parameters)
  | expand _ => ()
  | publish r => Dictionary.Listing.sorted r.context

variable (o) in
theorem Alike.exists_listed_eq (h : r.Alike r') : ∃ o' : r'.Order, r'.listed o' = r.listed o := by
  cases h with
  | create h =>
    obtain ⟨l, hl⟩ := Dictionary.Listing.exists_of_eq o h.parameters
    exact ⟨l, congrArg ([·]) hl⟩
  | delete h => exact ⟨(), rfl⟩
  | validate h =>
    obtain ⟨c, hc⟩ := o.1.exists_of_eq h.context
    obtain ⟨l, hl⟩ := o.2.exists_of_eq h.parameters
    exact ⟨(c, l), congrArg₂ ([·, ·]) hc hl⟩
  | expand h => exact ⟨(), rfl⟩
  | publish h =>
    obtain ⟨c, hc⟩ := Dictionary.Listing.exists_of_eq o h.context
    exact ⟨c, congrArg ([·]) hc⟩

theorem range_printed_subset (h : r.Alike r') (htarget : r.target? = r'.target?) :
    Set.range r.printed ⊆ Set.range r'.printed := by
  rintro _ ⟨o, rfl⟩
  obtain ⟨o', ho'⟩ := h.exists_listed_eq o
  exact ⟨o', (printed_eq_iff.2 ⟨h, ho'.symm, htarget⟩).symm⟩

/-- All that a request may be recorded as is the same for two requests just if they are alike and spell
their targets in the same way. -/
theorem range_printed_eq_iff :
    Set.range r.printed = Set.range r'.printed ↔ r.Alike r' ∧ r.target? = r'.target? := by
  constructor
  · intro h
    obtain ⟨o', ho'⟩ : r.printed (.sorted r) ∈ Set.range r'.printed := h ▸ Set.mem_range_self _
    obtain ⟨halike, -, htarget⟩ := printed_eq_iff.1 ho'.symm
    exact ⟨halike, htarget⟩
  · rintro ⟨halike, htarget⟩
    obtain ⟨o', ho'⟩ := range_printed_subset halike htarget (Set.mem_range_self (.sorted r))
    obtain ⟨halike', -, htarget'⟩ := printed_eq_iff.1 ho'
    exact (range_printed_subset halike htarget).antisymm (range_printed_subset halike' htarget')

/-- What is recorded of two requests is the same just if they differ in nothing but what is under the keys
of their secrets and the texts of mount flags, tell the entries of their dictionaries in the same order, and
spell the directory that they are about in the same way. The order is not the request's: all that it may
be recorded as is the same for requests that are alike and spell the directory alike. For entries of the
table of mounts it is the texts of the options that make no difference. -/
theorem recorded_alike_iff :
    (∀ (r r' : TypedRequest) (o : r.Order) (o' : r'.Order), r.printed o = r'.printed o' ↔
      r.Alike r' ∧ r.listed o = r'.listed o' ∧ r.target? = r'.target?) ∧
    (∀ r r' : TypedRequest, Set.range r.printed = Set.range r'.printed ↔
      r.Alike r' ∧ r.target? = r'.target?) ∧
    ∀ m m' : MountPoint, m.printed = m'.printed ↔ m.Alike m' ∧ m.path = m'.path :=
  ⟨fun _ _ _ _ ↦ printed_eq_iff, fun _ _ ↦ range_printed_eq_iff, fun _ _ ↦ MountPoint.printed_eq_iff⟩

def layered : CreateRequest where
  name := "a"
  capacity := none
  capabilities := []
  parameters := Dictionary.ofList [("layout", "raid10+"), ("user", "admin")]
  secrets := ∅
  source := none

def layered.reversed : layered.parameters.Listing :=
  ⟨layered.parameters.toList.reverse, List.reverse_perm _⟩

def publication (target : Path) : PublishRequest where
  volumeId := "a"
  target := target
  capability := ⟨.singleNodeWriter, .mount none []⟩
  readonly := false
  secrets := ∅
  context := ∅

/-- A request is recorded in two ways as its parameters are told in two orders, and two requests for the
same directory differ in how they spell it. -/
theorem recorded_apart :
    ((create layered).Alike (.create layered) ∧
      (create layered).printed (Order.sorted _) ≠ (create layered).printed layered.reversed) ∧
    (publish (publication "/data/vol")).Alike (.publish (publication "/data/vol/")) ∧
      ∀ o o', (publish (publication "/data/vol")).printed o ≠
        (publish (publication "/data/vol/")).printed o' := by
  have hkeys (d : Dictionary) : d.SameKeys d := fun _ ↦ .rfl
  refine ⟨⟨.create ⟨rfl, rfl, .nil, rfl, hkeys _, rfl⟩, ?_⟩,
    .publish ⟨rfl, by decide, ⟨rfl, .mount rfl⟩, rfl, hkeys _, rfl⟩, fun o o' h ↦ ?_⟩
  · decide +kernel
  · obtain ⟨-, -, htarget⟩ := printed_eq_iff.1 h
    exact absurd htarget (by decide)

end TypedRequest

end RealmDriver
