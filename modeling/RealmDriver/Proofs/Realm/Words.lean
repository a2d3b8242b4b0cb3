import RealmDriver.Proofs.Realm.KeyFile
import RealmDriver.Proofs.Service.Paths

namespace RealmDriver

namespace RemoteShell

inductive Role where
  | option
  | value
  | destination
  | command
  deriving DecidableEq, Repr

def IsDashed (word : String) : Prop := word.toList.head? = some '-'

instance (word : String) : Decidable (IsDashed word) :=
  inferInstanceAs (Decidable (word.toList.head? = some '-'))

/-- What is relied on of the remote shell, which reads its words from the left: `-o` and `-i` each take the
next word for their value, any other word with a dash in front is an option, and of two words without one
the first is the destination and the second the command. A dash alone is no option, and two end them. -/
structure Rules (roles : List String → List Role) : Prop where
  paired : ∀ name ∈ ["-o", "-i"], ∀ value rest,
    roles (name :: value :: rest) = .option :: .value :: roles rest
  dashed : ∀ word rest, IsDashed word → word ≠ "-" → word ≠ "--" →
    ∃ others, roles (word :: rest) = .option :: others
  operands : ∀ first second, ¬IsDashed first → ¬IsDashed second →
    roles [first, second] = [.destination, .command]

def words (pairs : List (String × String)) : List String := pairs.flatMap fun p ↦ [p.1, p.2]

def pairRoles (pairs : List (String × String)) : List Role := pairs.flatMap fun _ ↦ [.option, .value]

theorem words_append (pairs pairs' : List (String × String)) :
    words (pairs ++ pairs') = words pairs ++ words pairs' := List.flatMap_append

theorem Rules.roles_words {roles : List String → List Role} (h : Rules roles)
    {pairs : List (String × String)} (hpairs : ∀ p ∈ pairs, p.1 ∈ ["-o", "-i"]) (rest : List String) :
    roles (words pairs ++ rest) = pairRoles pairs ++ roles rest := by
  induction pairs with
  | nil => rfl
  | cons p pairs ih =>
    rw [List.forall_mem_cons] at hpairs
    exact (h.paired p.1 hpairs.1 p.2 _).trans (congrArg (.option :: .value :: ·) (ih hpairs.2))

end RemoteShell

open RemoteShell

def SessionSettings.pairs (s : SessionSettings) : List (String × String) :=
  let hosts := match s.knownHosts with
    | some path => [("-o", "StrictHostKeyChecking=yes"), ("-o", "UserKnownHostsFile=" ++ path)]
    | none => [("-o", "StrictHostKeyChecking=no"), ("-o", "UserKnownHostsFile=/dev/null")]
  [("-o", s!"ConnectTimeout={s.connectTimeout}")] ++ hosts ++ [("-o", "LogLevel=ERROR")]

theorem SessionSettings.options_eq (s : SessionSettings) : s.options = words s.pairs := by
  rw [options, pairs]
  cases s.knownHosts <;> rfl

theorem SessionSettings.pairs_names (s : SessionSettings) : ∀ p ∈ s.pairs, p.1 ∈ ["-o", "-i"] := by
  rw [pairs]
  cases s.knownHosts <;> simp

namespace Session

variable {ω : Type}

/-- The ways to open a session with some secrets: the program that is started, what it is told in front of
the words of the remote shell, and the options that these are besides the usual ones. No text of a secret is
in them. -/
inductive Way (m : Machine ω) (s : SessionSettings) (secrets : Dictionary) (shell : Path) :
    Path → List String → List (String × String) → Prop
  | password {o : ω} {typist : Path} (htypist : m.find? o "sshpass" = some typist)
      (hkey : secrets.secret? .privateKey = none) :
      Way m s secrets shell typist ["-e", shell] [("-o", "PubkeyAuthentication=no")]
  | key {t t' : FileTree} {path : Path} (hkey : (secrets.secret? .privateKey).isSome = true)
      (hpassphrase : secrets.secret? .passphrase = none)
      (hpath : t.createFresh s.keyDirectory "panfs-csi-key-" "" = .ok (path, t')) :
      Way m s secrets shell shell [] [("-i", path), ("-o", "BatchMode=yes")]
  | passphrase {o : ω} {typist : Path} {t t' : FileTree} {path : Path}
      (htypist : m.find? o "sshpass" = some typist)
      (hkey : (secrets.secret? .privateKey).isSome = true)
      (hpassphrase : (secrets.secret? .passphrase).isSome = true)
      (hpath : t.createFresh s.keyDirectory "panfs-csi-key-" "" = .ok (path, t')) :
      Way m s secrets shell typist ["-e", "-P", "passphrase", shell] [("-i", path)]

variable {m : Machine ω} {s : SessionSettings} {secrets : Dictionary} {d : Destination} {login : Login}
  {P : Machine.Started → Prop} {line : String} {command : List String}

theorem Way.names {shell program : Path} {front : List String} {pairs : List (String × String)}
    (h : Way m s secrets shell program front pairs) : ∀ p ∈ pairs, p.1 ∈ ["-o", "-i"] := by
  cases h with
  | password | key | passphrase => simp

variable (m s secrets) in
/-- A program was started in one of the ways, with a destination and one of some commands behind all
options. -/
def Opened (destination : String) (commands : List (List String)) (one : Machine.Started) : Prop :=
  ∃ shell front pairs, ∃ command ∈ commands, (∃ o, m.find? o "ssh" = some shell) ∧
    Way m s secrets shell one.1.program front pairs ∧
    one.1.arguments = front ++ (words (s.pairs ++ pairs) ++ [destination, Shell.line command]) ∧
    Shell.words? (Shell.line command) = some command

theorem exec_starts {i : Invocation}
    (hP : (∀ a ∈ i.arguments, Text.NulFree a) → ∀ r, P (i, r)) :
    (exec m.recording i).Within (Starts P) := by
  intro h
  rw [exec, Action.outcome_bind, Action.outcome_rephrase]
  rcases m.recording.start_outcome h i with ⟨-, hstart⟩ | ⟨hclean, hstart⟩
  · rw [hstart]
    exact refl h
  · rw [hstart]
    have hone : Starts P h { h with outside := (m.recording.run i h.files h.outside).2 } :=
      ⟨[_], rfl, List.forall_mem_singleton.2 (hP hclean _)⟩
    rcases (m.recording.run i h.files h.outside).1 with fault | f
    · exact hone
    · exact hone

theorem program_starts {path : Option Path} {h : Host (List Machine.Started × ω)}
    (hP : ∀ {i h'}, (invocation m.recording d login (arguments s d login path line)).outcome h =
      (.ok i, h') → (∀ a ∈ i.arguments, Text.NulFree a) → ∀ r, P (i, r)) :
    Starts P h ((program s m.recording line d login path).outcome h).2 := by
  obtain ⟨r, hr, -⟩ := invocation_outcome m.recording h d login (arguments_getLast? s d login path line)
  rw [program, Action.outcome_bind, hr]
  cases r with
  | error e => exact refl h
  | ok i => exact exec_starts (hP hr) h

theorem exists_way {path : Option Path} {arguments : List String} {i : Invocation}
    {h h' : Host (List Machine.Started × ω)} (hlogin : Login.ofSecrets? secrets = some login)
    (hplace : KeyPlace s login path)
    (hi : (invocation m.recording d login arguments).outcome h = (.ok i, h')) :
    ∃ front pairs, Way m s secrets d.shell i.program front pairs ∧ i.arguments = front ++ arguments ∧
      loginOptions login path = words pairs := by
  have hinvoked := of_invocation_ok hi
  cases hplace with
  | nowhere text =>
    obtain ⟨htyped, -⟩ | ⟨text, typist, -, htypist, rfl⟩ := hinvoked
    · cases htyped
    · have hkey := Login.privateKey_of_ofSecrets?_password hlogin
      exact ⟨_, _, .password htypist hkey, rfl, rfl⟩
  | @fresh key passphrase t t' path hfresh =>
    have hkey : (secrets.secret? .privateKey).isSome = true := by
      rw [Login.privateKey_of_ofSecrets?_key hlogin]
      rfl
    have hpassphrase := Login.passphrase_of_ofSecrets?_key hlogin
    obtain ⟨htyped, rfl⟩ | ⟨text, typist, htyped, htypist, rfl⟩ := hinvoked
    · cases (htyped : passphrase = none)
      exact ⟨_, _, .key hkey hpassphrase hfresh, rfl, rfl⟩
    · cases (htyped : passphrase = some text)
      exact ⟨_, _, .passphrase htypist hkey (by rw [hpassphrase]; rfl) hfresh, rfl, rfl⟩

theorem run_opened {user realm : String} (huser : secrets.secret? .user = some user)
    (hrealm : secrets.secret? .realmAddress = some realm) {commands : List (List String)}
    (hcommand : command ∈ commands) :
    (run s m.recording secrets command).Within
      (Starts (Opened m s secrets s!"{user}@{realm}" commands)) := by
  apply run_within
  · intro h h' files files' hstarts
    exact hstarts
  · intro d login path h hd hlogin hplace
    obtain ⟨hrealm', huser', hshell⟩ := of_destination_ok hd
    rw [Option.some_inj.1 (huser.symm.trans huser'), Option.some_inj.1 (hrealm.symm.trans hrealm')]
    refine program_starts fun {i h'} hi hclean r ↦ ?_
    obtain ⟨front, pairs, hway, hfront, hpairs⟩ := exists_way hlogin hplace hi
    have hline : i.arguments.getLast? = some (Shell.line command) := by
      rw [hfront, List.getLast?_append, arguments_getLast?]
      rfl
    -- what was handed over had no NUL in it, so that the words of the line are those it was made of
    have hread := Shell.words?_line (Shell.nulFree_of_line (hclean _ (List.mem_of_getLast? hline)))
    refine ⟨d.shell, front, pairs, command, hcommand, ⟨_, hshell⟩, hway, ?_, hread⟩
    rw [hfront, arguments, SessionSettings.options_eq, hpairs, words_append]

end Session

namespace RemoteShell

theorem isDashed_append_iff {word : String} (hne : word ≠ "") (rest : String) :
    IsDashed (word ++ rest) ↔ IsDashed word := by
  obtain ⟨c, cs, hword⟩ := List.exists_cons_of_ne_nil (mt String.toList_eq_nil_iff.1 hne)
  rw [IsDashed, IsDashed, String.toList_append, hword]
  rfl

theorem isDashed_destination_iff {user : String} (hne : user ≠ "") (realm : String) :
    IsDashed s!"{user}@{realm}" ↔ IsDashed user := by
  have htext : s!"{user}@{realm}" = user ++ ("@" ++ realm) := String.append_assoc
  rw [htext, isDashed_append_iff hne]

theorem destination_ne {user realm word : String} (hword : '@' ∉ word.toList) :
    s!"{user}@{realm}" ≠ word := by
  rintro rfl
  exact hword (by simp [String.toList_append, ToString.toString])

theorem exists_line_eq_append {word : String} (hplain : Shell.quoted word.toList = word.toList)
    (rest : List String) : ∃ behind, Shell.line (word :: rest) = word ++ behind := by
  cases rest with
  | nil => exact ⟨"", by simp [Shell.line, hplain]⟩
  | cons next rest =>
    rw [Shell.line, List.map_cons, List.map_cons, List.intercalate_cons_cons, hplain, List.append_assoc,
      String.ofList_append, String.ofList_toList]
    exact ⟨_, rfl⟩

theorem head?_of_mem_commands {α : Type} {op : Realm.Operation α} {command : List String}
    (h : command ∈ op.commands) : command.head? = some "volume" ∨ command.head? = some "pasxml" := by
  cases op with
  | create name parameters =>
    rcases List.mem_pair.1 h with rfl | rfl
    · exact .inl rfl
    · exact .inr rfl
  | delete name => exact .inl (List.mem_singleton.1 h ▸ rfl)
  | expand name bytes =>
    simp only [Realm.Operation.commands, List.mem_cons, List.not_mem_nil, or_false] at h
    rcases h with rfl | rfl | rfl
    · exact .inr rfl
    · exact .inl rfl
    · exact .inl rfl
  | lookup name => exact .inr (List.mem_singleton.1 h ▸ rfl)
  | list => exact .inr (List.mem_singleton.1 h ▸ rfl)

theorem not_isDashed_line {α : Type} {op : Realm.Operation α} {command : List String}
    (h : command ∈ op.commands) : ¬IsDashed (Shell.line command) := by
  have hline {first : String} (hplain : Shell.quoted first.toList = first.toList) (hne : first ≠ "")
      (hfirst : command.head? = some first) : IsDashed (Shell.line command) ↔ IsDashed first := by
    obtain ⟨rest, rfl⟩ := List.head?_eq_some_iff.1 hfirst
    obtain ⟨behind, hbehind⟩ := exists_line_eq_append hplain rest
    rw [hbehind, isDashed_append_iff hne]
  obtain hfirst | hfirst := head?_of_mem_commands h
  · rw [hline (by decide) (by decide) hfirst]
    decide
  · rw [hline (by decide) (by decide) hfirst]
    decide

def valued : List Char := "BbcDEeFIiJLlmOoPpQRSWw".toList

def awaitsValue : List Char → Bool
  | [] => false
  | c :: cs => if c ∈ valued then cs.isEmpty else awaitsValue cs

/-- What the next word may be: behind the destination there can be more options before the command. -/
inductive Reading where
  | options (known : Bool)
  | value (known : Bool)
  | destination
  | command
  deriving DecidableEq, Repr

def take : Reading → String → Role × Reading
  | .value known, _ => (.value, .options known)
  | .destination, _ => (.destination, .options true)
  | .command, _ => (.command, .command)
  | .options known, word =>
    if IsDashed word ∧ word ≠ "-" then
      (.option,
        if word = "--" then if known then .command else .destination
        else if awaitsValue word.toList.tail then .value known
        else .options known)
    else if known then (.command, .command)
    else (.destination, .options true)

def rolesFrom (r : Reading) : List String → List Role
  | [] => []
  | word :: rest => (take r word).1 :: rolesFrom (take r word).2 rest

theorem rules_rolesFrom : Rules (rolesFrom (.options false)) where
  paired name hname value rest := by
    simp only [List.mem_cons, List.not_mem_nil, or_false] at hname
    obtain rfl | rfl := hname
    · rfl
    · rfl
  dashed word rest hdash hne _ := by
    rw [rolesFrom, take, if_pos ⟨hdash, hne⟩]
    exact ⟨_, rfl⟩
  operands first second hfirst hsecond := by
    simp [rolesFrom, take, hfirst, hsecond]

end RemoteShell

namespace Remote

variable {ω : Type}

/-- **What the remote shell is handed.** With secrets that are accepted, every program is started with
options that are chosen here, one destination and one command of the operation, which a shell reads as it
was meant. No word is read as an option but those that were chosen as one, unless the user begins with a
dash: then the destination is one, too. -/
theorem session_words {roles : List String → List RemoteShell.Role} (hroles : Rules roles)
    {secrets : Dictionary} (hsecrets : Validation.credentials secrets = .ok ()) (s : SessionSettings)
    (m : Machine ω) {α : Type} (op : Realm.Operation α) (h : Host (List Machine.Started × ω)) :
    ∃ user realm, secrets.secret? .user = some user ∧ secrets.secret? .realmAddress = some realm ∧
      let destination := s!"{user}@{realm}"
      (IsDashed destination ↔ IsDashed user) ∧
      ∃ started, (((Remote.realm s m.recording).perform secrets op).outcome h).2.outside.1 =
          h.outside.1 ++ started ∧
        ∀ one ∈ started, ∃ shell front pairs, ∃ command ∈ op.commands,
          (∃ o, m.find? o "ssh" = some shell) ∧
          Session.Way m s secrets shell one.1.program front pairs ∧
          let handed := words (s.pairs ++ pairs) ++ [destination, Shell.line command]
          one.1.arguments = front ++ handed ∧ Shell.words? (Shell.line command) = some command ∧
          (¬IsDashed user → roles handed = pairRoles (s.pairs ++ pairs) ++ [.destination, .command]) ∧
          (IsDashed user → ∃ others, roles handed = pairRoles (s.pairs ++ pairs) ++ .option :: others) := by
  obtain ⟨⟨realm, hrealm⟩, ⟨user, huser⟩, -⟩ := Validation.credentials_ok_iff.1 hsecrets
  have hne : user ≠ "" := (Validation.secret?_eq_some_iff.1 huser).2
  refine ⟨user, realm, huser, hrealm, ?_⟩
  intro destination
  have hdestination : IsDashed destination ↔ IsDashed user := isDashed_destination_iff hne realm
  obtain ⟨started, hstarted, hopened⟩ := perform_within (s := s) (m := m.recording) op
    (fun command hcommand ↦ Session.run_opened huser hrealm hcommand) h
  refine ⟨hdestination, started, hstarted, fun one hone ↦ ?_⟩
  obtain ⟨shell, front, pairs, command, hcommand, hshell, hway, harguments, hread⟩ := hopened one hone
  have hnames : ∀ p ∈ s.pairs ++ pairs, p.1 ∈ ["-o", "-i"] :=
    List.forall_mem_append.2 ⟨s.pairs_names, hway.names⟩
  refine ⟨shell, front, pairs, command, hcommand, hshell, hway, harguments, hread, fun hplain ↦ ?_,
    fun hdashed ↦ ?_⟩
  · have hoperands := hroles.operands _ _ (mt hdestination.1 hplain) (not_isDashed_line hcommand)
    rw [hroles.roles_words hnames, hoperands]
  · obtain ⟨others, hothers⟩ := hroles.dashed destination [Shell.line command]
      (hdestination.2 hdashed) (destination_ne (by decide)) (destination_ne (by decide))
    exact ⟨others, by rw [hroles.roles_words hnames, hothers]⟩

def startedBy (secrets : Dictionary) : List Machine.Started :=
  (((realm ⟨30, none, "/tmp"⟩ Script.machine.recording).perform secrets (.delete "a")).outcome
    fresh).2.outside.1

theorem session_words_of_admin :
    Validation.credentials Validation.adminSecrets = .ok () ∧ (startedBy Validation.adminSecrets).length = 1 ∧
      ∀ one ∈ startedBy Validation.adminSecrets, ∃ front handed pairs, one.1.arguments = front ++ handed ∧
        handed.getLast? = some "volume delete /a force" ∧
        rolesFrom (.options false) handed = pairRoles pairs ++ [.destination, .command] := by
  refine ⟨Validation.credentials_adminSecrets, by decide +kernel, ?_⟩
  obtain ⟨user, realm, huser, -, -, started, hstarted, hone⟩ :=
    session_words rules_rolesFrom Validation.credentials_adminSecrets ⟨30, none, "/tmp"⟩ Script.machine
      (.delete "a") fresh
  have hadmin : user = "admin" := Option.some_inj.1 (huser.symm.trans (by decide +kernel))
  intro one hmem
  rw [startedBy, hstarted] at hmem
  obtain ⟨shell, front, pairs, command, hcommand, -, -, harguments, -, hroles, -⟩ := hone one hmem
  have hline : Shell.line command = "volume delete /a force" := by
    rw [List.mem_singleton.1 hcommand]
    decide +kernel
  refine ⟨front, _, _, harguments, ?_, hroles (by rw [hadmin]; decide)⟩
  rw [List.getLast?_append, hline]
  rfl

def dashedSecrets : Dictionary :=
  Dictionary.ofList [("realm_ip", "192.0.2.1"), ("user", "-oProxyCommand=id"), ("password", "pw")]

/-- With a dash in front the user is taken for an option, and the command for the destination. -/
theorem destination_read_as_option :
    Validation.credentials dashedSecrets = .ok () ∧
      (startedBy dashedSecrets).map (fun one ↦ one.1.arguments.drop 12) =
        [["-oProxyCommand=id@192.0.2.1", "volume delete /a force"]] ∧
      (startedBy dashedSecrets).map (fun one ↦ rolesFrom (.options false) (one.1.arguments.drop 2)) =
        [[.option, .value, .option, .value, .option, .value, .option, .value, .option, .value,
          .option, .destination]] := by
  exact ⟨by decide +kernel, by decide +kernel, by decide +kernel⟩

end Remote

end RealmDriver
