import RealmDriver.Proofs.Dictionary
import RealmDriver.Proofs.Frame
import RealmDriver.Proofs.Realm.Concealment
import RealmDriver.Proofs.Realm.Stage
import RealmDriver.Realm.Remote

namespace RealmDriver

/-- A program is started as the one that types in a password if there is one, and as the remote shell if
there is none. -/
structure Invocation.OpensSession (programs : List (String × Path)) (i : Invocation) : Prop where
  program : programs.lookup (if i.password.isSome then "sshpass" else "ssh") = some i.program
  typing : i.password.isSome = true ↔ i.arguments.head? = some "-e"

def OpensSessions (h h' : Host Script) : Prop :=
  h'.outside.programs = h.outside.programs ∧
    ∃ starts, h'.outside.starts = h.outside.starts ++ starts ∧
      ∀ start ∈ starts, start.invocation.OpensSession h.outside.programs

instance : Std.Refl OpensSessions := ⟨fun _ ↦ ⟨rfl, [], (List.append_nil _).symm, nofun⟩⟩

instance : IsTrans (Host Script) OpensSessions := by
  constructor
  rintro h h' h'' ⟨hprograms, starts, hstarts, hopen⟩ ⟨hprograms', starts', hstarts', hopen'⟩
  refine ⟨hprograms'.trans hprograms, starts ++ starts', ?_, ?_⟩
  · rw [hstarts', hstarts, List.append_assoc]
  · rw [hprograms] at hopen'
    exact List.forall_mem_append.2 ⟨hopen, hopen'⟩

namespace Session

variable {h : Host Script} {i : Invocation}

theorem start_opens (hi : i.OpensSession h.outside.programs) :
    OpensSessions h ((Script.machine.start i).outcome h).2 := by
  rcases Script.machine.start_outcome h i with ⟨-, hstart⟩ | ⟨-, hstart⟩
  · rw [hstart]
    exact refl h
  · rw [hstart]
    simp only [Script.machine]
    split_ifs
    · exact refl h
    · have hnext : h.outside.next.2.programs = h.outside.programs ∧
          h.outside.next.2.starts = h.outside.starts := by
        rw [Script.next]
        split <;> exact ⟨rfl, rfl⟩
      refine ⟨hnext.1, [_], congrArg (· ++ [_]) hnext.2, ?_⟩
      exact List.forall_mem_singleton.2 hi

theorem exec_opens (hi : i.OpensSession h.outside.programs) :
    OpensSessions h ((exec Script.machine i).outcome h).2 := by
  have hstart := start_opens hi
  rw [exec, Action.outcome_bind, Action.outcome_rephrase]
  rcases houtcome : (Script.machine.start i).outcome h with ⟨fault | finished, h'⟩
  · rw [houtcome] at hstart
    exact hstart
  · rw [houtcome] at hstart
    exact hstart

theorem opensSession_of_invocation_ok {d : Destination} {login : Login} {arguments : List String}
    {h' : Host Script} (hd : h.outside.programs.lookup "ssh" = some d.shell)
    (harguments : arguments.head? ≠ some "-e")
    (hinvocation : (invocation Script.machine d login arguments).outcome h = (.ok i, h')) :
    i.OpensSession h.outside.programs := by
  obtain ⟨-, rfl⟩ | ⟨text, typist, -, htypist, rfl⟩ := of_invocation_ok hinvocation
  · exact ⟨hd, iff_of_false (by simp) harguments⟩
  · exact ⟨htypist, iff_of_true rfl rfl⟩

theorem arguments_head? (s : SessionSettings) (d : Destination) (login : Login) (path : Option Path)
    (command : String) : (arguments s d login path command).head? = some "-o" := rfl

theorem program_opens {d : Destination} (hd : h.outside.programs.lookup "ssh" = some d.shell)
    (s : SessionSettings) (login : Login) (path : Option Path) (line : String) :
    OpensSessions h ((program s Script.machine line d login path).outcome h).2 := by
  have hdash : (arguments s d login path line).head? ≠ some "-e" := by
    rw [arguments_head?]
    decide
  obtain ⟨r, hr, -⟩ := invocation_outcome Script.machine h d login (arguments_getLast? s d login path line)
  rw [program, Action.outcome_bind, hr]
  cases r with
  | error e => exact (refl h : OpensSessions h h)
  | ok i => exact exec_opens (opensSession_of_invocation_ok hd hdash hr)

theorem run_opens (s : SessionSettings) (secrets : Dictionary) (command : List String) :
    (run s Script.machine secrets command).Within OpensSessions := by
  apply run_within
  · intro h h' files files' hopens
    exact hopens
  · intro d login path h hd _ _
    exact program_opens (of_destination_ok hd).2.2 s login path _

/-- The password counts only for those who have no private key. -/
theorem run_congr {ω : Type} (m : Machine ω) (s : SessionSettings) {secrets other : Dictionary}
    (hkey : (secrets.secret? .privateKey).isSome = true)
    (hother : ∀ k ≠ Secret.password, other.secret? k = secrets.secret? k) (command : List String) :
    run s m other command = run s m secrets command := by
  have hlogin : Login.ofSecrets? other = Login.ofSecrets? secrets := by
    obtain ⟨key, hkey⟩ := Option.isSome_iff_exists.1 hkey
    rw [Login.ofSecrets?, Login.ofSecrets?, hother .privateKey (by decide),
      hother .passphrase (by decide), hkey]
  rw [run, run, destination, destination, require, require, require, require,
    hother .realmAddress (by decide), hother .user (by decide), hlogin]

end Session

/-- The commands that an operation has for the realm, if it gets to them. -/
def Realm.Operation.commands {α : Type} : Realm.Operation α → List (List String)
  | .create name parameters => [Command.create name parameters, Command.lookup name]
  | .delete name => [Command.delete name]
  | .expand name bytes =>
    let target := Quota.ofBytes bytes
    [Command.lookup name, Command.setQuota name .hard target, Command.setQuota name .soft target]
  | .lookup name => [Command.lookup name]
  | .list => [Command.list]

namespace Remote

open RealmDriver.Action (Paired Within)

variable {secrets secrets' other : Dictionary} {s : SessionSettings} {α : Type}

section

variable (h : secrets.Interchangeable secrets')
include h

theorem read_paired (command : List String) : Paired (Indistinct Eq) Eq Eq
    (read s Script.machine secrets command) (read s Script.machine secrets' command) := by
  apply Paired.bind (Session.run_paired h s command)
  rintro text _ rfl
  exact .same _

theorem lookup_paired (name : String) : Paired (Indistinct Eq) Eq Eq
    (lookup s Script.machine name secrets) (lookup s Script.machine name secrets') := by
  apply Paired.bind (read_paired h _)
  rintro volumes _ rfl
  cases volumes.find? (·.name = VolumeName.strip name) with
  | none => exact .throw rfl
  | some record => exact .pure rfl

theorem perform_paired (op : Realm.Operation α) : Paired (Indistinct Eq) Eq Eq
    ((realm s Script.machine).perform secrets op) ((realm s Script.machine).perform secrets' op) := by
  cases op with
  | create name parameters =>
    apply Paired.bind (Session.run_paired h s _)
    rintro text _ rfl
    exact lookup_paired h name
  | delete name =>
    apply Paired.bind (Session.run_paired h s _)
    rintro text _ rfl
    exact .pure rfl
  | expand name bytes =>
    apply Paired.bind (lookup_paired h name)
    rintro record _ rfl
    apply Paired.forM
    intro command
    apply Paired.bind (Session.run_paired h s _)
    rintro text _ rfl
    exact .pure rfl
  | lookup name => exact lookup_paired h name
  | list => exact read_paired h _

end

theorem growth_sublist (record : VolumeRecord) (name : String) (target : Quota) :
    (growth record name target).Sublist
      [Command.setQuota name .hard target, Command.setQuota name .soft target] := by
  rw [growth]
  split
  · exact .refl _
  · exact .cons _ (.refl _)

/-- An operation keeps to what all sessions with its commands keep to. -/
theorem perform_within {ω : Type} {R : Host ω → Host ω → Prop} [Std.Refl R] [IsTrans (Host ω) R]
    {m : Machine ω} (op : Realm.Operation α)
    (hrun : ∀ command ∈ op.commands, (Session.run s m secrets command).Within R) :
    ((realm s m).perform secrets op).Within R := by
  have hread (command : List String) (hcommand : command ∈ op.commands) :
      (read s m secrets command).Within R := .bind (hrun command hcommand) fun _ ↦ .ofExcept _
  have hlookup (name : String) (hname : Command.lookup name ∈ op.commands) :
      (lookup s m name secrets).Within R := by
    apply Within.bind (hread _ hname)
    intro volumes
    cases volumes.find? (·.name = VolumeName.strip name) with
    | none => exact .throw _
    | some record => exact .pure _
  cases op with
  | create name parameters =>
    exact .bind (hrun _ (.head _)) fun _ ↦ hlookup name (.tail _ (.head _))
  | delete name => exact .bind (hrun _ (.head _)) fun _ ↦ .pure _
  | expand name bytes =>
    apply Within.bind (hlookup name (.head _))
    intro record
    apply Within.forM
    intro command hcommand
    have hset := List.mem_cons_of_mem (Command.lookup name) ((growth_sublist ..).mem hcommand)
    exact .bind (hrun command hset) fun _ ↦ .pure _
  | lookup name => exact hlookup name (.head _)
  | list => exact hread _ (.head _)

theorem perform_opens (op : Realm.Operation α) :
    ((realm s Script.machine).perform secrets op).Within OpensSessions :=
  perform_within op fun command _ ↦ Session.run_opens s secrets command

theorem perform_congr {ω : Type} (m : Machine ω) (hkey : (secrets.secret? .privateKey).isSome = true)
    (hother : ∀ k ≠ Secret.password, other.secret? k = secrets.secret? k) (op : Realm.Operation α) :
    (realm s m).perform other op = (realm s m).perform secrets op := by
  have hrun := Session.run_congr m s hkey hother
  have hread (command : List String) : read s m other command = read s m secrets command := by
    rw [read, read, hrun]
  have hlookup (name : String) : lookup s m name other = lookup s m name secrets := by
    rw [lookup, lookup, hread]
  cases op with
  | create name parameters => simp only [Realm.perform, realm, create, hrun, hlookup]
  | delete name => simp only [Realm.perform, realm, delete, hrun]
  | expand name bytes => simp only [Realm.perform, realm, expand, hrun, hlookup]
  | lookup name => exact hlookup name
  | list => exact hread _

/-- Two collections of secrets that differ in nothing but a private key, its passphrase and a password.
Whatever is asked of the realm with the one or the other, and whatever the realm answers, the same programs
are started with the same arguments, with the same result, and the same is left behind; the password in the
environment and the content of the key file may differ. A password is there for the program that types it
in, and for no other; beside a private key it makes no difference at all. -/
theorem perform_conceals (hsecrets : secrets.Interchangeable secrets') {h h' : Host Script}
    (hh : Indistinct Eq h h') (op : Realm.Operation α) :
    let done := ((realm s Script.machine).perform secrets op).outcome h
    let done' := ((realm s Script.machine).perform secrets' op).outcome h'
    done.1 = done'.1 ∧ Indistinct Eq done.2 done'.2 ∧ OpensSessions h done.2 ∧
      ((secrets.secret? .privateKey).isSome = true →
        ∀ other : Dictionary, (∀ k ≠ Secret.password, other.secret? k = secrets.secret? k) →
          ((realm s Script.machine).perform other op).outcome h = done) := by
  obtain ⟨hresult, hstate⟩ := perform_paired (s := s) hsecrets op h h' hh
  refine ⟨hresult.eq, hstate, perform_opens op h, ?_⟩
  intro hkey other hother
  rw [perform_congr Script.machine hkey hother]

def keySecrets (key passphrase : String) : Dictionary :=
  Dictionary.ofList [("realm_ip", "192.0.2.1"), ("user", "admin"), ("private_key", key),
    ("private_key_passphrase", passphrase)]

theorem keySecrets_nulFree {key passphrase : String} (hkey : Text.NulFree key)
    (hpassphrase : Text.NulFree passphrase) : (keySecrets key passphrase).NulFree := by
  have haddress : Text.NulFree "192.0.2.1" := by decide
  have huser : Text.NulFree "admin" := by decide
  intro k text htext
  rw [keySecrets, Dictionary.getElem?_ofList (by simp)] at htext
  simp only [List.mem_cons, List.not_mem_nil, or_false, Prod.mk.injEq] at htext
  rcases htext with ⟨-, rfl⟩ | ⟨-, rfl⟩ | ⟨-, rfl⟩ | ⟨-, rfl⟩
  · exact haddress
  · exact huser
  · exact hkey
  · exact hpassphrase

theorem keySecrets_interchangeable :
    (keySecrets "one" "first").Interchangeable (keySecrets "two" "second") where
  realmAddress := rfl
  user := rfl
  privateKey := rfl
  passphrase := rfl
  password := rfl
  clean := keySecrets_nulFree (by decide) (by decide)
  clean' := keySecrets_nulFree (by decide) (by decide)

theorem perform_conceals_of_keys :
    let run (secrets : Dictionary) := ((realm ⟨30, none, "/tmp"⟩ Script.machine).perform secrets
      (.lookup "a")).outcome workstation
    let done := run (keySecrets "one" "first")
    let done' := run (keySecrets "two" "second")
    done.1 = done'.1 ∧ done.2.outside.concealed = done'.2.outside.concealed ∧
      done.2.outside.starts.map Start.key = [some ("one\n", 0o600)] ∧
      done'.2.outside.starts.map Start.key = [some ("two\n", 0o600)] := by
  obtain ⟨hresult, hstate, -⟩ := perform_conceals (s := ⟨30, none, "/tmp"⟩)
    keySecrets_interchangeable (⟨rfl, rfl⟩ : Indistinct Eq workstation workstation) (.lookup "a")
  refine ⟨hresult, hstate.outside, ?_, ?_⟩
  · decide +kernel
  · decide +kernel

end Remote

end RealmDriver
