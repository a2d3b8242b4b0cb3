import RealmDriver.Machine.Script
import RealmDriver.Proofs.Coupling
import RealmDriver.Proofs.Files.Shape
import RealmDriver.Proofs.Realm.Session

namespace RealmDriver

def blank : Option String → Option String := Option.map fun _ ↦ ""

theorem blank_eq_iff {a b : Option String} : blank a = blank b ↔ a.isSome = b.isSome := by
  cases a <;> cases b <;> simp [blank]

theorem both_or_neither {a b : Option String} (h : a.isSome = b.isSome) :
    (a = none ∧ b = none) ∨ ∃ text text', a = some text ∧ b = some text' := by
  cases a with
  | none => exact .inl ⟨rfl, Option.isNone_iff_eq_none.1 (Option.isSome_eq_false_iff.1 h.symm)⟩
  | some text =>
    obtain ⟨text', htext'⟩ := Option.isSome_iff_exists.1 h.symm
    exact .inr ⟨text, text', rfl, htext'⟩

def Dictionary.NulFree (d : Dictionary) : Prop :=
  ∀ (key text : String), d[key]? = some text → Text.NulFree text

theorem Dictionary.NulFree.secret? {d : Dictionary} (h : d.NulFree) {s : Secret} {text : String}
    (htext : d.secret? s = some text) : Text.NulFree text :=
  h s.key text (Option.filter_eq_some_iff.1 htext).1

def Invocation.concealed (i : Invocation) : Invocation := { i with password := blank i.password }

theorem Invocation.concealed_eq_iff {i i' : Invocation} : i.concealed = i'.concealed ↔
    i.program = i'.program ∧ i.arguments = i'.arguments ∧ blank i.password = blank i'.password := by
  rw [concealed, concealed, Invocation.mk.injEq]

/-- The same start with one password or another, either of which can be handed over. -/
structure Invocation.Alike (i i' : Invocation) : Prop where
  concealed : i.concealed = i'.concealed
  clean : ∀ text, i.password = some text → Text.NulFree text
  clean' : ∀ text, i'.password = some text → Text.NulFree text

def Start.concealed (s : Start) : Start where
  invocation := s.invocation.concealed
  key := s.key.map fun k ↦ ("", k.2)

def Script.concealed (s : Script) : Script := { s with starts := s.starts.map Start.concealed }

theorem Script.concealed_eq_iff {s s' : Script} : s.concealed = s'.concealed ↔
    s.programs = s'.programs ∧ s.broken = s'.broken ∧ s.endings = s'.endings ∧ s.table = s'.table ∧
      s.starts.map Start.concealed = s'.starts.map Start.concealed := by
  rw [concealed, concealed, Script.mk.injEq]

/-- Hosts that differ in their files at most, and in the passwords and keys that programs were started
with. -/
structure Indistinct (R : FileTree → FileTree → Prop) (h h' : Host Script) : Prop where
  files : R h.files h'.files
  outside : h.outside.concealed = h'.outside.concealed

namespace Login

def concealed : Login → Login
  | key _ passphrase => key "" (blank passphrase)
  | password _ => password ""

theorem typed?_concealed (login : Login) : login.concealed.typed? = blank login.typed? := by
  cases login <;> rfl

theorem prompt_concealed (login : Login) : login.concealed.prompt = login.prompt := by
  cases login <;> rfl

structure Alike (login login' : Login) : Prop where
  concealed : login.concealed = login'.concealed
  clean : ∀ text, login.typed? = some text → Text.NulFree text
  clean' : ∀ text, login'.typed? = some text → Text.NulFree text

theorem Alike.prompt {login login' : Login} (h : login.Alike login') : login.prompt = login'.prompt := by
  rw [← login.prompt_concealed, h.concealed, login'.prompt_concealed]

theorem Alike.typed? {login login' : Login} (h : login.Alike login') :
    blank login.typed? = blank login'.typed? := by
  rw [← login.typed?_concealed, h.concealed, login'.typed?_concealed]

end Login

/-- The same as far as anyone can tell who does not know the secrets themselves. -/
structure Dictionary.Interchangeable (secrets secrets' : Dictionary) : Prop where
  realmAddress : secrets.secret? .realmAddress = secrets'.secret? .realmAddress
  user : secrets.secret? .user = secrets'.secret? .user
  privateKey : (secrets.secret? .privateKey).isSome = (secrets'.secret? .privateKey).isSome
  passphrase : (secrets.secret? .passphrase).isSome = (secrets'.secret? .passphrase).isSome
  password : (secrets.secret? .password).isSome = (secrets'.secret? .password).isSome
  clean : secrets.NulFree
  clean' : secrets'.NulFree

theorem Dictionary.Interchangeable.login {secrets secrets' : Dictionary}
    (h : secrets.Interchangeable secrets') :
    (Login.ofSecrets? secrets = none ∧ Login.ofSecrets? secrets' = none) ∨
      ∃ login login', Login.ofSecrets? secrets = some login ∧ Login.ofSecrets? secrets' = some login' ∧
        login.Alike login' := by
  rw [Login.ofSecrets?, Login.ofSecrets?]
  rcases both_or_neither h.privateKey with ⟨hkey, hkey'⟩ | ⟨key, key', hkey, hkey'⟩
  · rw [hkey, hkey']
    rcases both_or_neither h.password with ⟨htyped, htyped'⟩ | ⟨text, text', htyped, htyped'⟩
    · rw [htyped, htyped']
      exact .inl ⟨rfl, rfl⟩
    · rw [htyped, htyped']
      refine .inr ⟨.password text, .password text', rfl, rfl, rfl, ?_, ?_⟩
      · rintro _ ⟨⟩
        exact h.clean.secret? htyped
      · rintro _ ⟨⟩
        exact h.clean'.secret? htyped'
  · rw [hkey, hkey']
    refine .inr ⟨_, _, rfl, rfl, ?_, fun _ ↦ h.clean.secret?, fun _ ↦ h.clean'.secret?⟩
    rw [Login.concealed, Login.concealed, blank_eq_iff.2 h.passphrase]

theorem Script.run_concealed {i i' : Invocation} {files files' : FileTree} {s s' : Script}
    (hi : i.concealed = i'.concealed) (hfiles : files.SameShape files')
    (hs : s.concealed = s'.concealed) :
    (machine.run i files s).1 = (machine.run i' files' s').1 ∧
      (machine.run i files s).2.concealed = (machine.run i' files' s').2.concealed := by
  obtain ⟨hprogram, harguments, -⟩ := Invocation.concealed_eq_iff.1 hi
  obtain ⟨programs, broken, endings, table, starts⟩ := s
  obtain ⟨programs', broken', endings', table', starts'⟩ := s'
  obtain ⟨rfl, rfl, rfl, rfl, hstarts⟩ := concealed_eq_iff.1 hs
  have hstart : Start.concealed ⟨i, (keyPath? i.arguments).bind files.file?⟩ =
      Start.concealed ⟨i', (keyPath? i'.arguments).bind files'.file?⟩ := by
    rw [Start.concealed, Start.concealed, hi, harguments]
    cases keyPath? i'.arguments with
    | none => rfl
    | some path =>
      have hfile := congrArg (Option.map fun mode ↦ ("", mode)) (hfiles.file? path)
      rw [Option.map_map, Option.map_map] at hfile
      exact congrArg (Start.mk i'.concealed) hfile
  simp only [machine, hprogram]
  split_ifs
  · exact ⟨rfl, hs⟩
  · cases endings with
    | nil => exact ⟨rfl, by simp [next, concealed, hstarts, hstart]⟩
    | cons ending rest => exact ⟨rfl, by simp [next, concealed, hstarts, hstart]⟩

namespace Session

open RealmDriver.Action (Coupled Paired)

variable {R : FileTree → FileTree → Prop} {i i' : Invocation} {login login' : Login}

theorem find_paired (name : String) :
    Paired (Indistinct R) Eq Eq (find Script.machine name) (find Script.machine name) := by
  intro h h' hh
  have hprograms : h.outside.programs = h'.outside.programs :=
    (Script.concealed_eq_iff.1 hh.outside).1
  have hfind : Script.machine.find? h.outside name = Script.machine.find? h'.outside name :=
    congrArg (·.lookup name) hprograms
  simp only [find, Machine.find, Action.outcome_bind, Action.outcome_get, Action.outcome_pure, hfind]
  cases Script.machine.find? h'.outside name with
  | none => exact ⟨.error rfl, hh⟩
  | some p => exact ⟨.ok rfl, hh⟩

theorem any_nul_of_clean (hclean : ∀ text, i.password = some text → Text.NulFree text) :
    (i.password.toList ++ i.arguments).any (·.toList.any (·.toNat = 0)) =
      i.arguments.any (·.toList.any (·.toNat = 0)) := by
  cases hpassword : i.password with
  | none => rfl
  | some text =>
    have htext : (text.toList.any fun c ↦ c.toNat = 0) = false := by
      simpa [Text.NulFree] using hclean text hpassword
    simp only [Option.toList_some, List.singleton_append, List.any_cons, htext, Bool.false_or]

theorem start_paired (hR : ∀ t t', R t t' → t.SameShape t') (hi : i.Alike i') :
    Paired (Indistinct R) Eq Eq (Script.machine.start i) (Script.machine.start i') := by
  obtain ⟨-, harguments, -⟩ := Invocation.concealed_eq_iff.1 hi.concealed
  rw [Machine.start, Machine.start, any_nul_of_clean hi.clean, any_nul_of_clean hi.clean', harguments]
  split_ifs
  · exact .throw rfl
  · intro h h' hh
    obtain ⟨hresult, houtside⟩ := Script.run_concealed hi.concealed (hR _ _ hh.files) hh.outside
    exact ⟨.of_eq hresult fun _ _ ↦ rfl, hh.files, houtside⟩

theorem exec_paired (hR : ∀ t t', R t t' → t.SameShape t') (hi : i.Alike i') :
    Paired (Indistinct R) Eq Eq (exec Script.machine i) (exec Script.machine i') := by
  obtain ⟨hprogram, -, hpassword⟩ := Invocation.concealed_eq_iff.1 hi.concealed
  have htyped : i.password.isSome = i'.password.isSome := by
    simpa [blank] using congrArg Option.isSome hpassword
  rw [exec, exec, hprogram, htyped]
  apply Paired.bind ((start_paired hR hi).rephrase _)
  · rintro finished _ rfl
    exact .same _
  · rintro fault _ rfl
    rfl

theorem loginOptions_concealed (login : Login) (path : Option Path) :
    loginOptions login.concealed path = loginOptions login path := by
  cases login with
  | key text passphrase => cases passphrase <;> rfl
  | password text => rfl

theorem arguments_congr (hlogin : login.Alike login') (s : SessionSettings) (d : Destination)
    (path : Option Path) (command : String) :
    arguments s d login path command = arguments s d login' path command := by
  rw [arguments, arguments, ← loginOptions_concealed, hlogin.concealed, loginOptions_concealed]

theorem invocation_paired (hlogin : login.Alike login') (d : Destination) (arguments : List String) :
    Paired (Indistinct R) Eq Invocation.Alike (invocation Script.machine d login arguments)
      (invocation Script.machine d login' arguments) := by
  have hclean := hlogin.clean
  have hclean' := hlogin.clean'
  rw [invocation, invocation, hlogin.prompt]
  rcases both_or_neither (blank_eq_iff.1 hlogin.typed?) with ⟨hnone, hnone'⟩ | ⟨text, text', hsome, hsome'⟩
  · rw [hnone, hnone']
    exact .pure ⟨rfl, by simp, by simp⟩
  · rw [hsome] at hclean ⊢
    rw [hsome'] at hclean' ⊢
    apply Paired.bind (find_paired "sshpass")
    rintro typist _ rfl
    exact .pure ⟨rfl, hclean, hclean'⟩

theorem writeKey_outcome (dir : Path) (t : FileTree) :
    (∃ e t', ∀ key, (writeKey dir key).outcome t = (.error e, t')) ∨
      ∃ path seat base, FileTree.Vacant base path seat ∧ ∀ key, (writeKey dir key).outcome t =
        (.ok path, base.set seat.location (.file 0o600 (keyContent key))) := by
  simp only [writeKey, Action.outcome_bind, Action.outcome_rephrase, Action.outcome_yielding,
    Action.outcome_onFailure, Action.atomically, Action.outcome_ofOutcome]
  cases hfresh : t.createFresh dir "panfs-csi-key-" "" with
  | error e => exact .inl ⟨_, t, fun key ↦ rfl⟩
  | ok made =>
    obtain ⟨path, files⟩ := made
    obtain ⟨n, base, seat, -, -, hvacant, rfl⟩ := FileTree.vacant_of_createFresh_ok hfresh
    simp only [Except.mapError, hvacant.setMode]
    cases base.disk.fixed? seat.location with
    | some fault => exact .inl ⟨_, _, fun key ↦ rfl⟩
    | none =>
      simp only [hvacant.writeAll]
      cases base.disk.full? seat.location with
      | none => exact .inr ⟨path, seat, base, hvacant, fun key ↦ rfl⟩
      | some shortage =>
        -- as much of the key as was written is gone with its file
        exact .inl ⟨_, base.unset seat.location, fun key ↦ congrArg (Prod.mk _) (hvacant.discard_file _ _)⟩

def KeyFiles (base : FileTree) (l : Location) (key key' : String) (t t' : FileTree) : Prop :=
  t = base.set l (.file 0o600 (keyContent key)) ∧ t' = base.set l (.file 0o600 (keyContent key'))

theorem KeyFiles.sameShape {base : FileTree} {l : Location} (hfree : base.entry? l = none)
    (key key' : String) (t t' : FileTree) (h : KeyFiles base l key key' t t') : t.SameShape t' := by
  obtain ⟨rfl, rfl⟩ := h
  exact FileTree.sameShape_set hfree 0o600 _ _

theorem session_paired (hR : ∀ t t', R t t' → t.SameShape t') (hlogin : login.Alike login')
    (s : SessionSettings) (d : Destination) (path : Option Path) (command : String) :
    Paired (Indistinct R) Eq Eq
      (do exec Script.machine (← invocation Script.machine d login (arguments s d login path command)))
      (do exec Script.machine (← invocation Script.machine d login' (arguments s d login' path command))) := by
  rw [arguments_congr hlogin]
  apply Paired.bind (invocation_paired hlogin d _)
  intro i i' hi
  exact exec_paired hR hi

theorem runAs_paired (hlogin : login.Alike login') (s : SessionSettings) (d : Destination)
    (command : String) : Paired (Indistinct Eq) Eq Eq (runAs s Script.machine d login command)
      (runAs s Script.machine d login' command) := by
  have hconcealed := hlogin.concealed
  cases login with
  | password text =>
    cases login' with
    | key text' passphrase' => cases hconcealed
    | password text' =>
      have hsame : ∀ t t', t = t' → FileTree.SameShape t t' := by
        rintro t _ rfl
        exact refl t
      exact session_paired hsame hlogin s d none command
  | key text passphrase =>
    cases login' with
    | password text' => cases hconcealed
    | key text' passphrase' =>
      rintro ⟨t, o⟩ ⟨t', o'⟩ ⟨ht, ho⟩
      cases (ht : t = t')
      simp only [runAs, Host.onFiles, Action.outcome_bind, Action.outcome_on]
      rcases writeKey_outcome s.keyDirectory t with ⟨e, t', hkey⟩ | ⟨path, seat, base, hvacant, hkey⟩
      · rw [hkey text, hkey text']
        exact ⟨.error rfl, rfl, ho⟩
      · -- the trees differ in the key file for as long as it is there, and after that not at all
        rw [hkey text, hkey text']
        have hsession := session_paired (KeyFiles.sameShape hvacant.free text text') hlogin s d
          (some path) command
        apply Coupled.andAlways _ (hsession ⟨_, o⟩ ⟨_, o'⟩ ⟨⟨rfl, rfl⟩, ho⟩)
        rintro ⟨_, p⟩ ⟨_, p'⟩ ⟨⟨rfl, rfl⟩, hp⟩
        refine ⟨?_, hp⟩
        exact (hvacant.discard_file _ _).trans (hvacant.discard_file _ _).symm

theorem destination_paired {secrets secrets' : Dictionary}
    (hrealm : secrets.secret? .realmAddress = secrets'.secret? .realmAddress)
    (huser : secrets.secret? .user = secrets'.secret? .user) :
    Paired (Indistinct R) Eq Eq (destination Script.machine secrets)
      (destination Script.machine secrets') := by
  rw [destination, destination, require, require, require, require, hrealm, huser]
  apply Paired.bind (.same _)
  rintro realm _ rfl
  apply Paired.bind (.same _)
  rintro user _ rfl
  apply Paired.bind (find_paired "ssh")
  rintro shell _ rfl
  exact .pure rfl

theorem run_paired {secrets secrets' : Dictionary} (h : secrets.Interchangeable secrets')
    (s : SessionSettings) (command : List String) : Paired (Indistinct Eq) Eq Eq
      (run s Script.machine secrets command) (run s Script.machine secrets' command) := by
  rw [run, run]
  apply Paired.bind (destination_paired h.realmAddress h.user)
  rintro d _ rfl
  rcases h.login with ⟨hnone, hnone'⟩ | ⟨login, login', hsome, hsome', hlogin⟩
  · rw [hnone, hnone']
    exact .throw rfl
  · rw [hsome, hsome']
    exact runAs_paired hlogin s d _

end Session

end RealmDriver
