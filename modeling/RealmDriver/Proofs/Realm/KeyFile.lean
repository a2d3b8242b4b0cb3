import RealmDriver.Proofs.Files.Fresh
import RealmDriver.Proofs.Realm.Secrecy
import RealmDriver.Proofs.Realm.Stage

namespace RealmDriver

namespace FileTree

structure SameFiles (t t' : FileTree) : Prop where
  entries : t'.entries = t.entries
  workingDirectory : t'.workingDirectory = t.workingDirectory

/-- The tree has at most one file more than it had. That is a new one in the directory, which only its
owner can read. -/
inductive HasAtMostOneMore (dir : Path) (before now : FileTree) : Prop
  | none (hentries : now.entries = before.entries)
  | one {place : Location} {name content : String} (hdir : before.locate (before.rooted dir) = .ok place)
      (hfree : before.entry? (place ++ [name]) = none)
      (hentries : now.entries = before.entries.insert (place ++ [name]) (.file 0o600 content))

theorem SameFiles.symm {t t' : FileTree} (h : SameFiles t t') : SameFiles t' t :=
  ⟨h.entries.symm, h.workingDirectory.symm⟩

theorem SameFiles.addsDirectories {t t' : FileTree} (h : SameFiles t t') : AddsDirectories t t' :=
  .of_entries h.entries h.workingDirectory

theorem Vacant.file? {t : FileTree} {p : Path} {s : Seat} (h : Vacant t p s) (mode : Nat)
    (content : String) : (t.set s.location (.file mode content)).file? p = some (content, mode) := by
  rw [FileTree.file?, h.locate_file]
  simp only [entry?_set_self h.free]

end FileTree

open FileTree (SameFiles HasAtMostOneMore Seat Vacant)

theorem Login.privateKey_of_ofSecrets?_key {secrets : Dictionary} {key : String}
    {passphrase : Option String} (h : Login.ofSecrets? secrets = some (.key key passphrase)) :
    secrets.secret? .privateKey = some key := by
  rw [Login.ofSecrets?] at h
  cases hkey : secrets.secret? .privateKey with
  | none => simp [hkey] at h
  | some text =>
    rw [hkey] at h
    cases h
    rfl

theorem Login.passphrase_of_ofSecrets?_key {secrets : Dictionary} {key : String}
    {passphrase : Option String} (h : Login.ofSecrets? secrets = some (.key key passphrase)) :
    secrets.secret? .passphrase = passphrase := by
  rw [Login.ofSecrets?, Login.privateKey_of_ofSecrets?_key h] at h
  cases h
  rfl

theorem Login.privateKey_of_ofSecrets?_password {secrets : Dictionary} {text : String}
    (h : Login.ofSecrets? secrets = some (.password text)) :
    secrets.secret? .privateKey = none := by
  rw [Login.ofSecrets?] at h
  cases hkey : secrets.secret? .privateKey with
  | none => rfl
  | some text => simp [hkey] at h

namespace Script

theorem keyPath?_cons {x : String} (hx : x ≠ "-i") (xs : List String) :
    keyPath? (x :: xs) = keyPath? xs := by
  rw [keyPath?]
  simp [hx]

theorem keyPath?_append {xs : List String} (hxs : "-i" ∉ xs) (ys : List String) :
    keyPath? (xs ++ ys) = keyPath? ys := by
  induction xs with
  | nil => rfl
  | cons x xs ih =>
    rw [List.mem_cons, not_or] at hxs
    rw [List.cons_append, keyPath?_cons (Ne.symm hxs.1), ih hxs.2]

def Starts (P : Start → Prop) (o o' : Script) : Prop :=
  o'.programs = o.programs ∧ ∃ starts, o'.starts = o.starts ++ starts ∧ ∀ start ∈ starts, P start

theorem Starts.refl (P : Start → Prop) (o : Script) : Starts P o o :=
  ⟨rfl, [], (List.append_nil _).symm, List.forall_mem_nil P⟩

theorem Starts.trans {P : Start → Prop} {o o' o'' : Script} (h : Starts P o o') (h' : Starts P o' o'') :
    Starts P o o'' := by
  obtain ⟨hprograms, starts, hstarts, hP⟩ := h
  obtain ⟨hprograms', starts', hstarts', hP'⟩ := h'
  refine ⟨hprograms'.trans hprograms, starts ++ starts', ?_, List.forall_mem_append.2 ⟨hP, hP'⟩⟩
  rw [hstarts', hstarts, List.append_assoc]

theorem starts_run {P : Start → Prop} {i : Invocation} {files : FileTree}
    (hP : P ⟨i, (keyPath? i.arguments).bind files.file?⟩) (o : Script) :
    Starts P o (machine.run i files o).2 := by
  have hnext : o.next.2.programs = o.programs ∧ o.next.2.starts = o.starts := by
    rw [Script.next]
    split <;> exact ⟨rfl, rfl⟩
  simp only [machine]
  split_ifs
  · exact .refl P o
  · exact ⟨hnext.1, [_], congrArg (· ++ [_]) hnext.2, List.forall_mem_singleton.2 hP⟩

end Script

/-- Where there is a private key, the file that stands behind `-i` has the key in it, with a line end at
its end, and is for its owner alone. Where there is none, nothing stands there. -/
def Start.FindsKey (secrets : Dictionary) (start : Start) : Prop :=
  match secrets.secret? .privateKey with
  | none => Script.keyPath? start.invocation.arguments = none
  | some key => ∃ path content, Script.keyPath? start.invocation.arguments = some path ∧
    start.key = some (content, 0o600) ∧
    content.toList = key.toList ++ if key.toList.getLast? = some '\n' then [] else ['\n']

namespace Session

theorem ne_dash_i {c : Char} {text : String} (hc : c ∈ text.toList) (hother : c ∉ "-i".toList) :
    "-i" ≠ text := by
  rintro rfl
  exact hother hc

theorem not_mem_options (s : SessionSettings) : "-i" ∉ s.options := by
  have htimeout : "-i" ≠ s!"ConnectTimeout={s.connectTimeout}" :=
    ne_dash_i (c := '=') (by simp [String.toList_append, ToString.toString]) (by decide)
  rw [SessionSettings.options]
  cases s.knownHosts with
  | none => simpa using htimeout
  | some path =>
    have hhosts : "-i" ≠ "UserKnownHostsFile=" ++ path :=
      ne_dash_i (c := '=') (by simp [String.toList_append]) (by decide)
    simpa using ⟨htimeout, hhosts⟩

def keyPath? (path : Option Path) : Login → Option Path
  | .key _ _ => some (path.getD "")
  | .password _ => none

theorem keyPath?_arguments (s : SessionSettings) (d : Destination) (login : Login) (path : Option Path)
    (line : String) :
    Script.keyPath? (arguments s d login path line) = keyPath? path login := by
  rw [arguments, List.append_assoc, Script.keyPath?_append (not_mem_options s)]
  cases login with
  | key text passphrase => rfl
  | password text =>
    have hdestination : "-i" ≠ s!"{d.user}@{d.realm}" :=
      ne_dash_i (c := '@') (by simp [String.toList_append, ToString.toString]) (by decide)
    have hfront : "-i" ∉ ["-o", "PubkeyAuthentication=no", s!"{d.user}@{d.realm}"] := by
      simpa using hdestination
    -- the command comes last, so nothing can stand behind it
    have hlast : Script.keyPath? [line] = none := by simp [Script.keyPath?]
    exact (Script.keyPath?_append hfront [line]).trans hlast

section

variable {ω : Type} (m : Machine ω) (h : Host ω)

theorem keyPath?_invocation {d : Destination} {login : Login} {arguments : List String} {i : Invocation}
    {h' : Host ω} (hshell : d.shell ≠ "-i")
    (hi : (invocation m d login arguments).outcome h = (.ok i, h')) :
    Script.keyPath? i.arguments = Script.keyPath? arguments := by
  obtain ⟨-, rfl⟩ | ⟨text, typist, -, -, rfl⟩ := of_invocation_ok hi
  · rfl
  · have hfront : "-i" ∉ ["-e"] ++ login.prompt ++ [d.shell] := by
      cases login <;> simpa [Login.prompt] using hshell.symm
    exact Script.keyPath?_append hfront arguments

theorem exec_files (i : Invocation) : ((exec m i).outcome h).2.files = h.files := by
  rw [exec, Action.outcome_bind, Action.outcome_rephrase]
  rcases m.start_outcome h i with ⟨-, hstart⟩ | ⟨-, hstart⟩
  · rw [hstart]
    rfl
  · rw [hstart]
    rcases (m.run i h.files h.outside).1 with fault | f <;> rfl

theorem program_files (s : SessionSettings) (line : String) (d : Destination) (login : Login)
    (path : Option Path) : ((program s m line d login path).outcome h).2.files = h.files := by
  obtain ⟨r, hr, -⟩ := invocation_outcome m h d login (arguments_getLast? s d login path line)
  rw [program, Action.outcome_bind, hr]
  cases r with
  | error e => rfl
  | ok i => exact exec_files m h i

end

/-- The key file of a session, where nothing was before, and nothing else that is new. -/
inductive Kept (dir : Path) (before : FileTree) (path : Path) (content : String) : FileTree → Prop
  | made {t : FileTree} {seat : Seat} (hsame : SameFiles before t) (hvacant : Vacant t path seat)
    (hdir : t.locate (t.rooted dir) = .ok seat.directory) :
    Kept dir before path content (t.set seat.location (.file 0o600 content))

section

variable {dir path : Path} {before now : FileTree} {content : String}

theorem kept_of_createFresh_ok (hsame : SameFiles before now) {files : FileTree}
    (hfresh : now.createFresh dir "panfs-csi-key-" "" = .ok (path, files)) :
    Kept dir before path "" files := by
  obtain ⟨n, seat, -, hpath, hvacant, rfl⟩ := FileTree.exists_vacant_of_createFresh_ok hfresh
  refine .made ⟨hsame.entries, hsame.workingDirectory⟩ hvacant ?_
  rw [hpath] at hvacant
  exact FileTree.Vacant.locate_rooted hvacant (by decide) (by decide) (by decide)

namespace Kept

variable (hkept : Kept dir before path content now)
include hkept

/-- The mode is what it is to be already, so it makes no difference whether the disk refuses to change it. -/
theorem setMode : ∃ r, (Action.atomically fun t : FileTree ↦ t.setMode path 0o600).outcome now = (r, now) := by
  obtain @⟨t, seat, hsame, hvacant, hdir⟩ := hkept
  simp only [Action.atomically, Action.outcome_ofOutcome, hvacant.setMode]
  cases t.disk.fixed? seat.location with
  | none => exact ⟨_, rfl⟩
  | some fault => exact ⟨_, rfl⟩

theorem writeAll (content' : String) : ∃ r written files,
    (FileTree.writeAll path content').outcome now = (r, files) ∧ Kept dir before path written files ∧
      (r = .ok () → written = content') := by
  obtain @⟨t, seat, hsame, hvacant, hdir⟩ := hkept
  rw [hvacant.writeAll]
  cases t.disk.full? seat.location with
  | none => exact ⟨_, _, _, rfl, .made hsame hvacant hdir, fun _ ↦ rfl⟩
  | some shortage => exact ⟨_, _, _, rfl, .made hsame hvacant hdir, by simp⟩

theorem discard : SameFiles before (now.discard path) := by
  obtain ⟨hsame, hvacant, hdir⟩ := hkept
  rwa [hvacant.discard_file, FileTree.unset_of_free hvacant.free]

theorem file? : now.file? path = some (content, 0o600) := by
  obtain ⟨hsame, hvacant, hdir⟩ := hkept
  exact hvacant.file? 0o600 content

theorem hasAtMostOneMore : HasAtMostOneMore dir before now := by
  obtain @⟨t, seat, hsame, hvacant, hdir⟩ := hkept
  have hback := hsame.symm.addsDirectories
  rw [← hback.rooted] at hdir
  have hentries : (t.set seat.location (.file 0o600 content)).entries =
      before.entries.insert (seat.directory ++ [seat.name]) (.file 0o600 content) := by
    rw [← hsame.entries]
    rfl
  exact .one (hback.locate hdir) (hsame.addsDirectories.vacant hvacant.free) hentries

end Kept

end

/-- What a stage means for the files, and for the destination once there is one. A key has its file from
the making of the file to its removal. -/
inductive Held (D : Destination → Prop) (secrets : Dictionary) (dir : Path) (before : FileTree) :
    Stage → FileTree → Prop
  | opening {now : FileTree} (hsame : SameFiles before now) : Held D secrets dir before .opening now
  | known {d : Destination} {login : Login} {now : FileTree} (hd : D d)
      (hlogin : Login.ofSecrets? secrets = some login) (hsame : SameFiles before now) :
      Held D secrets dir before (.known d login) now
  | made {d : Destination} {key : String} {passphrase : Option String} {path : Path} {now : FileTree}
      (hd : D d) (hlogin : Login.ofSecrets? secrets = some (.key key passphrase))
      (hkept : Kept dir before path "" now) : Held D secrets dir before (.made d key passphrase path) now
  | narrowed {d : Destination} {key : String} {passphrase : Option String} {path : Path}
      {now : FileTree} (hd : D d) (hlogin : Login.ofSecrets? secrets = some (.key key passphrase))
      (hkept : Kept dir before path "" now) :
      Held D secrets dir before (.narrowed d key passphrase path) now
  | filled {d : Destination} {key : String} {passphrase : Option String} {path : Path}
      {now : FileTree} (hd : D d) (hlogin : Login.ofSecrets? secrets = some (.key key passphrase))
      (hkept : Kept dir before path (keyContent key) now) :
      Held D secrets dir before (.ready d (.key key passphrase) (some path)) now
  | unkeyed {d : Destination} {text : String} {now : FileTree} (hd : D d)
      (hlogin : Login.ofSecrets? secrets = some (.password text)) (hsame : SameFiles before now) :
      Held D secrets dir before (.ready d (.password text) none) now
  | leaving {path : Path} {result : Except RealmError String} {content : String} {now : FileTree}
      (hkept : Kept dir before path content now) : Held D secrets dir before (.leaving path result) now
  | ended {result : Except RealmError String} {now : FileTree} (hsame : SameFiles before now) :
      Held D secrets dir before (.ended result) now

namespace Held

variable {ω : Type} {m : Machine ω} {D : Destination → Prop} {s : SessionSettings}
  {secrets : Dictionary} {dir : Path} {before now : FileTree} {stage : Stage} {h : Host ω}

theorem hasAtMostOneMore (hheld : Held D secrets dir before stage now) :
    HasAtMostOneMore dir before now := by
  cases hheld with
  | opening hsame | known _ _ hsame | unkeyed _ _ hsame | ended hsame => exact .none hsame.entries
  | made _ _ hkept | narrowed _ _ hkept | filled _ _ hkept | leaving hkept =>
    exact hkept.hasAtMostOneMore

theorem afterLooking {r : Except RealmError Destination} (hD : ∀ d, r = .ok d → D d)
    (hsame : SameFiles before now) :
    Held D secrets dir before (.afterLooking r (Login.ofSecrets? secrets)) now := by
  cases r with
  | error e => exact .ended hsame
  | ok d =>
    cases hlogin : Login.ofSecrets? secrets with
    | none => exact .ended hsame
    | some login => exact .known (hD d rfl) hlogin hsame

theorem turn (hD : ∀ d, ((destination m secrets).outcome h).1 = .ok d → D d) (line : String)
    (hheld : Held D secrets s.keyDirectory before stage h.files) :
    Held D secrets s.keyDirectory before (turn s m secrets line (stage, h)).1
      (turn s m secrets line (stage, h)).2.files := by
  cases hheld with
  | opening hsame => exact afterLooking hD hsame
  | @known d login _ hd hlogin hsame =>
    cases login with
    | password text => exact .unkeyed hd hlogin hsame
    | key text passphrase =>
      rw [Session.turn]
      rcases hfresh : h.files.createFresh s.keyDirectory "panfs-csi-key-" "" with
        ⟨fault, path⟩ | ⟨path, files⟩
      · exact .ended hsame
      · exact .made hd hlogin (kept_of_createFresh_ok hsame hfresh)
  | made hd hlogin hkept =>
    obtain ⟨fault | _, hmode⟩ := hkept.setMode
    · rw [Session.turn, hmode]
      exact .leaving hkept
    · rw [Session.turn, hmode]
      exact .narrowed hd hlogin hkept
  | @narrowed d key passphrase path _ hd hlogin hkept =>
    obtain ⟨fault | _, written, files, hwrite, hwritten, hall⟩ := hkept.writeAll (keyContent key)
    · rw [Session.turn, hwrite]
      exact .leaving hwritten
    · rw [Session.turn, hwrite]
      exact .filled hd hlogin (hall rfl ▸ hwritten)
  | filled hd hlogin hkept =>
    rw [← program_files m h s line] at hkept
    exact .leaving hkept
  | unkeyed hd hlogin hsame =>
    rw [← program_files m h s line] at hsame
    exact .ended hsame
  | leaving hkept => exact .ended hkept.discard
  | ended hsame => exact .ended hsame

end Held

theorem keyContent_toList (key : String) : (keyContent key).toList =
    key.toList ++ if key.toList.getLast? = some '\n' then [] else ['\n'] := by
  rw [keyContent]
  split_ifs
  · exact (List.append_nil _).symm
  · exact String.toList_append

section

variable {s : SessionSettings} {secrets : Dictionary} {line : String} {h : Host Script}
  {P : Start → Prop}

theorem starts_exec {i : Invocation} (hP : P ⟨i, (Script.keyPath? i.arguments).bind h.files.file?⟩) :
    Script.Starts P h.outside ((exec Script.machine i).outcome h).2.outside := by
  have hrun := Script.starts_run hP h.outside
  rw [exec, Action.outcome_bind, Action.outcome_rephrase]
  rcases Script.machine.start_outcome h i with ⟨-, hstart⟩ | ⟨-, hstart⟩
  · rw [hstart]
    exact .refl P h.outside
  · rw [hstart]
    rcases houtcome : Script.machine.run i h.files h.outside with ⟨fault | f, o⟩
    · rwa [houtcome] at hrun
    · rwa [houtcome] at hrun

theorem starts_program {d : Destination} {login : Login} {path : Option Path}
    (hP : ∀ i : Invocation, (d.shell ≠ "-i" → Script.keyPath? i.arguments = keyPath? path login) →
      P ⟨i, (Script.keyPath? i.arguments).bind h.files.file?⟩) :
    Script.Starts P h.outside ((program s Script.machine line d login path).outcome h).2.outside := by
  obtain ⟨r, hr, -⟩ := invocation_outcome Script.machine h d login (arguments_getLast? s d login path line)
  rw [program, Action.outcome_bind, hr]
  cases r with
  | error e => exact .refl P h.outside
  | ok i =>
    refine starts_exec (hP i fun hshell ↦ ?_)
    rw [keyPath?_invocation Script.machine h hshell hr, keyPath?_arguments]

end

/-- A start finds the key, unless the place of the remote shell looks like the option. -/
abbrev Finds (secrets : Dictionary) (first : Host Script) (start : Start) : Prop :=
  first.outside.programs.lookup "ssh" ≠ some "-i" → start.FindsKey secrets

/-- What has become of an operation's files and starts since it began, if a session has come so far. -/
structure Orderly (secrets : Dictionary) (dir : Path) (first : Host Script)
    (c : Stage × Host Script) : Prop where
  held : Held (first.outside.programs.lookup "ssh" = some ·.shell) secrets dir first.files c.1 c.2.files
  starts : Script.Starts (Finds secrets first) first.outside c.2.outside

namespace Orderly

variable {s : SessionSettings} {secrets : Dictionary} {first : Host Script} {c : Stage × Host Script}

theorem turn_starts (hc : Orderly secrets s.keyDirectory first c) (line : String) :
    Script.Starts (Finds secrets first) c.2.outside
      (turn s Script.machine secrets line c).2.outside := by
  obtain ⟨stage, h⟩ := c
  cases hc.held with
  | @filled d key passphrase path _ hd hlogin hkept =>
    refine starts_program fun i hpath hssh ↦ ?_
    have hpath := hpath fun hshell ↦ hssh (hshell ▸ hd)
    rw [hpath, Start.FindsKey, Login.privateKey_of_ofSecrets?_key hlogin]
    exact ⟨path, keyContent key, hpath, hkept.file?, keyContent_toList key⟩
  | unkeyed hd hlogin hsame =>
    refine starts_program fun i hpath hssh ↦ ?_
    rw [Start.FindsKey, Login.privateKey_of_ofSecrets?_password hlogin]
    exact hpath fun hshell ↦ hssh (hshell ▸ hd)
  | @known d login =>
    cases login <;> simp [Session.turn, Script.Starts.refl]
  | opening | made | narrowed | leaving | ended => simp [Session.turn, Script.Starts.refl]

theorem turn (hc : Orderly secrets s.keyDirectory first c) (line : String) :
    Orderly secrets s.keyDirectory first (turn s Script.machine secrets line c) where
  held := by
    refine hc.held.turn ?_ line
    intro d hd
    rw [← hc.starts.1]
    exact (of_destination_ok hd).2.2
  starts := hc.starts.trans (hc.turn_starts line)

end Orderly

end Session

namespace Remote

open Session (Stage)

variable {α : Type}

/-- However an operation goes, whatever programs are missing or broken and whatever the realm answers: at
no moment there is more than one file more than before, which is in the directory for keys and for its
owner alone; in the end there is none; and each program that was started has found the private key in the
file behind `-i`, if there is such a key. -/
theorem perform_leaves_no_key (s : SessionSettings) (secrets : Dictionary) (op : Realm.Operation α)
    (h : Host Script) :
    let done := ((realm s Script.machine).perform secrets op).outcome h
    let moment (n : ℕ) := (Plan.turn s Script.machine secrets)^[n] (Plan.ofOperation op, .opening, h)
    (∃ n, moment n = (.done done.1, .opening, done.2)) ∧
    done.2.files.entries = h.files.entries ∧
    (∀ n, HasAtMostOneMore s.keyDirectory h.files (moment n).2.2.files) ∧
    ∃ starts, done.2.outside.starts = h.outside.starts ++ starts ∧
      (h.outside.programs.lookup "ssh" ≠ some "-i" → ∀ start ∈ starts, start.FindsKey secrets) := by
  intro done moment
  have hmoment (n : ℕ) : Session.Orderly secrets s.keyDirectory h (moment n).2 := by
    refine Plan.iterate_invariant s Script.machine secrets ?_ ?_ _ ?_ n
    · intro line c hc
      exact hc.turn line
    · rintro printed h' ⟨hheld, hstarts⟩
      cases hheld with
      | ended hsame => exact ⟨.opening hsame, hstarts⟩
    · exact ⟨.opening ⟨rfl, rfl⟩, .refl _ _⟩
  obtain ⟨n, hn⟩ : ∃ n, moment n = (.done done.1, .opening, done.2) := by
    have hend := Plan.exists_iterate_action s Script.machine secrets (Plan.ofOperation op) h
    rwa [Plan.action_ofOperation] at hend
  have hdone := hmoment n
  rw [hn] at hdone
  obtain ⟨-, starts, hstarts, hfinds⟩ := hdone.starts
  refine ⟨⟨n, hn⟩, ?_, fun n ↦ (hmoment n).held.hasAtMostOneMore, starts, hstarts, ?_⟩
  · cases hdone.held with
    | opening hsame => exact hsame.entries
  · intro hshell start hstart
    exact hfinds start hstart hshell

theorem perform_leaves_no_key_of_lookup :
    let secrets := keySecrets "one" "first"
    let done := ((realm ⟨30, none, "/tmp"⟩ Script.machine).perform secrets (.lookup "a")).outcome
      workstation
    let moment (n : ℕ) := (Plan.turn ⟨30, none, "/tmp"⟩ Script.machine secrets)^[n]
      (Plan.ofOperation (.lookup "a"), .opening, workstation)
    (moment 4).2.2.files.file? "/tmp/panfs-csi-key-000000" = some ("one\n", 0o600) ∧
      HasAtMostOneMore "/tmp" workstation.files (moment 4).2.2.files ∧
      done.2.files.entries = workstation.files.entries ∧
      done.2.outside.starts.map Start.key = [some ("one\n", 0o600)] ∧
      ∀ start ∈ done.2.outside.starts, start.FindsKey secrets := by
  intro secrets done moment
  obtain ⟨-, hentries, hmost, starts, hstarts, hfinds⟩ :=
    perform_leaves_no_key ⟨30, none, "/tmp"⟩ secrets (.lookup "a") workstation
  refine ⟨by decide +kernel, hmost 4, hentries, by decide +kernel, ?_⟩
  rw [hstarts, workstation]
  exact hfinds (by decide)

end Remote

end RealmDriver
