import Mathlib.Logic.Function.Iterate
import RealmDriver.Proofs.Frame
import RealmDriver.Proofs.Realm.Plan
import RealmDriver.Proofs.Realm.Session

namespace RealmDriver

variable {ω α : Type} (s : SessionSettings) (m : Machine ω) (secrets : Dictionary)

namespace Session

/-- How far a session has come. A key is put into a file of its own before a program is started. -/
inductive Stage
  | opening
  | known (d : Destination) (login : Login)
  | made (d : Destination) (key : String) (passphrase : Option String) (path : Path)
  | narrowed (d : Destination) (key : String) (passphrase : Option String) (path : Path)
  | ready (d : Destination) (login : Login) (path : Option Path)
  | leaving (path : Path) (result : Except RealmError String)
  | ended (result : Except RealmError String)

namespace Stage

variable (h : Host ω)

def afterLooking : Except RealmError Destination → Option Login → Stage
  | .error e, _ => ended (.error e)
  | .ok _, none => ended (.error ⟨.unauthenticated, ValidationError.noCredentials.message⟩)
  | .ok d, some login => known d login

def afterMaking (d : Destination) (key : String) (passphrase : Option String) :
    Except (SystemFault × Path) (Path × FileTree) → Stage × Host ω
  | .ok (path, files) => (made d key passphrase path, { h with files })
  | .error (fault, path) =>
    (ended (.error (keyError s!"{fault.message} at path {Text.quoted path}")), h)

def afterChange (path : Path) (next : Stage) : Except SystemFault Unit × FileTree → Stage × Host ω
  | (.ok _, files) => (next, { h with files })
  | (.error fault, files) => (leaving path (.error (keyError fault.message)), { h with files })

def afterProgram (result : Except RealmError String) : Option Path → Stage
  | some path => leaving path result
  | none => ended result

@[simp] theorem afterMaking_outside (d : Destination) (key : String) (passphrase : Option String)
    (r : Except (SystemFault × Path) (Path × FileTree)) :
    (afterMaking h d key passphrase r).2.outside = h.outside := by
  cases r <;> rfl

@[simp] theorem afterChange_outside (path : Path) (next : Stage) (r : Except SystemFault Unit × FileTree) :
    (afterChange h path next r).2.outside = h.outside := by
  obtain ⟨_ | _, files⟩ := r <;> rfl

end Stage

variable (line : String)

def program (d : Destination) (login : Login) (path : Option Path) :
    Action (Host ω) RealmError String := do
  exec m (← invocation m d login (arguments s d login path line))

def turn : Stage × Host ω → Stage × Host ω
  | (.opening, h) => (.afterLooking ((destination m secrets).outcome h).1 (Login.ofSecrets? secrets), h)
  | (.known d (.password text), h) => (.ready d (.password text) none, h)
  | (.known d (.key key passphrase), h) =>
    Stage.afterMaking h d key passphrase (h.files.createFresh s.keyDirectory "panfs-csi-key-" "")
  | (.made d key passphrase path, h) =>
    Stage.afterChange h path (.narrowed d key passphrase path)
      ((Action.atomically (·.setMode path 0o600)).outcome h.files)
  | (.narrowed d key passphrase path, h) =>
    Stage.afterChange h path (.ready d (.key key passphrase) (some path))
      ((FileTree.writeAll path (keyContent key)).outcome h.files)
  | (.ready d login path, h) =>
    let done := (program s m line d login path).outcome h
    (.afterProgram done.1 path, done.2)
  | (.leaving path result, h) => (.ended result, { h with files := h.files.discard path })
  | (.ended result, h) => (.ended result, h)

theorem runAs_key (d : Destination) (key : String) (passphrase : Option String) :
    runAs s m d (.key key passphrase) line = (do
      let path ← Host.onFiles (writeKey s.keyDirectory key)
      (program s m line d (.key key passphrase) (some path)).andAlways fun h ↦
        { h with files := h.files.discard path }) := rfl

section

variable {s m secrets}

theorem createFresh_of_writeKey_ok {dir path : Path} {key : String} {t t' : FileTree}
    (h : (writeKey dir key).outcome t = (.ok path, t')) :
    ∃ t'', t.createFresh dir "panfs-csi-key-" "" = .ok (path, t'') := by
  obtain ⟨made, t₁, hmade, hrest⟩ := Action.of_outcome_bind_ok h
  obtain ⟨_, t₂, -, hpath⟩ := Action.of_outcome_bind_ok hrest
  cases hpath
  simp only [Action.outcome_rephrase, Action.outcome_yielding] at hmade
  cases hfresh : t.createFresh dir "panfs-csi-key-" "" with
  | error e =>
    rw [hfresh] at hmade
    cases hmade
  | ok made =>
    rw [hfresh] at hmade
    cases hmade
    exact ⟨_, rfl⟩

/-- Where the key of a login stands while the program of the session runs. -/
inductive KeyPlace (s : SessionSettings) : Login → Option Path → Prop
  | nowhere (text : String) : KeyPlace s (.password text) none
  | fresh (key : String) (passphrase : Option String) {t t' : FileTree} {path : Path}
      (hfresh : t.createFresh s.keyDirectory "panfs-csi-key-" "" = .ok (path, t')) :
      KeyPlace s (.key key passphrase) (some path)

theorem destination_files (h : Host ω) (files : FileTree) :
    ((destination m secrets).outcome { h with files }).1 = ((destination m secrets).outcome h).1 := by
  simp only [destination, Action.outcome_bind, Action.outcome_ofExcept]
  cases require secrets .realmAddress with
  | error e => rfl
  | ok realm =>
    cases require secrets .user with
    | error e => rfl
    | ok user =>
      simp only [find, Machine.find, Action.outcome_bind, Action.outcome_get, Action.outcome_pure]
      cases m.find? h.outside "ssh" <;> rfl

/-- But for the files a session keeps to what its program keeps to. -/
theorem run_within {R : Host ω → Host ω → Prop} [Std.Refl R]
    (hR : ∀ {h h'} files files', R h h' → R { h with files := files } { h' with files := files' })
    {command : List String} (hprogram : ∀ {d login path h}, ((destination m secrets).outcome h).1 = .ok d →
      Login.ofSecrets? secrets = some login → KeyPlace s login path →
      R h ((program s m (Shell.line command) d login path).outcome h).2) :
    (run s m secrets command).Within R := by
  intro h
  obtain ⟨r, hr⟩ := destination_outcome m h secrets
  rw [run, Action.outcome_bind, hr]
  cases r with
  | error e => exact refl h
  | ok d =>
    have hd : ((destination m secrets).outcome h).1 = .ok d := congrArg Prod.fst hr
    cases hlogin : Login.ofSecrets? secrets with
    | none => exact refl h
    | some login =>
      cases login with
      | password text => exact hprogram hd hlogin (.nowhere text)
      | key text passphrase =>
        simp only [runAs_key, Host.onFiles, Action.outcome_bind, Action.outcome_on]
        rcases hwrite : (writeKey s.keyDirectory text).outcome h.files with ⟨e | path, files⟩
        · exact hR h.files files (refl h)
        · obtain ⟨t, hfresh⟩ := createFresh_of_writeKey_ok hwrite
          rw [← destination_files h files] at hd
          let done := ((program s m (Shell.line command) d (.key text passphrase) (some path)).outcome
            { h with files }).2
          have hdone : R { h with files } done := hprogram hd hlogin (.fresh text passphrase hfresh)
          have hremoved := hR h.files (done.files.discard path) hdone
          exact hremoved

end

theorem exists_iterate_runAs (d : Destination) (login : Login) (h : Host ω) :
    ∃ n, (turn s m secrets line)^[n] (.known d login, h) =
      (.ended ((runAs s m d login line).outcome h).1, ((runAs s m d login line).outcome h).2) := by
  cases login with
  | password text => exact ⟨2, rfl⟩
  | key text passphrase =>
    simp only [runAs_key, Host.onFiles, writeKey, Action.outcome_bind, Action.outcome_on,
      Action.outcome_rephrase, Action.outcome_yielding, Action.outcome_onFailure]
    rcases hfresh : h.files.createFresh s.keyDirectory "panfs-csi-key-" "" with
      ⟨fault, path⟩ | ⟨path, files⟩
    · exact ⟨1, by simp [turn, Stage.afterMaking, Except.mapError, hfresh]⟩
    · rcases hmode : (Action.atomically fun t : FileTree ↦ t.setMode path 0o600).outcome files with
        ⟨fault | _, files'⟩
      · exact ⟨3, by simp [turn, Stage.afterMaking, Stage.afterChange, Except.mapError, hfresh, hmode]⟩
      · rcases hwrite : (FileTree.writeAll path (keyContent text)).outcome files' with
          ⟨fault | _, files''⟩
        · exact ⟨4, by simp [turn, Stage.afterMaking, Stage.afterChange, Except.mapError, hfresh, hmode,
            hwrite]⟩
        · exact ⟨5, by simp [turn, Stage.afterMaking, Stage.afterChange, Stage.afterProgram,
            Except.mapError, hfresh, hmode, hwrite]⟩

theorem exists_iterate_run (command : List String) (h : Host ω) :
    ∃ n, (turn s m secrets (Shell.line command))^[n] (.opening, h) =
      (.ended ((run s m secrets command).outcome h).1, ((run s m secrets command).outcome h).2) := by
  obtain ⟨r, hr⟩ := destination_outcome m h secrets
  rw [run, Action.outcome_bind, hr]
  cases r with
  | error e => exact ⟨1, by simp [turn, hr, Stage.afterLooking]⟩
  | ok d =>
    cases hlogin : Login.ofSecrets? secrets with
    | none => exact ⟨1, by simp [turn, hr, hlogin, Stage.afterLooking]⟩
    | some login =>
      obtain ⟨n, hn⟩ := exists_iterate_runAs s m secrets (Shell.line command) d login h
      refine ⟨n + 1, ?_⟩
      rw [Function.iterate_succ_apply, turn, hr, hlogin]
      exact hn

end Session

namespace Plan

open Session (Stage)

/-- The next step of a plan, where a session that has ended tells what comes next. -/
def turn : Plan α × Stage × Host ω → Plan α × Stage × Host ω
  | (done result, c) => (done result, c)
  | (session _ next, .ended printed, h) => (next printed, .opening, h)
  | (session command next, c) =>
    (session command next, Session.turn s m secrets (Shell.line command) c)

/-- What holds when sessions begin and is kept by their steps holds at every step of a plan. -/
theorem iterate_invariant {P : Stage × Host ω → Prop}
    (hturn : ∀ line c, P c → P (Session.turn s m secrets line c))
    (hnext : ∀ printed h, P (.ended printed, h) → P (.opening, h)) (p : Plan α)
    {c : Stage × Host ω} (hc : P c) (n : ℕ) : P ((turn s m secrets)^[n] (p, c)).2 := by
  induction n generalizing p c with
  | zero => exact hc
  | succ n ih =>
    rw [Function.iterate_succ_apply]
    cases p with
    | done result => exact ih _ hc
    | session command next =>
      obtain ⟨stage, h⟩ := c
      cases stage with
      | ended printed => exact ih _ (hnext printed h hc)
      | opening | known | made | narrowed | ready | leaving => exact ih _ (hturn _ _ hc)

variable {command : List String} {next : Except RealmError String → Plan α}

theorem exists_iterate_session {n : Nat} {c : Stage × Host ω} {printed : Except RealmError String}
    {h : Host ω} (hn : (Session.turn s m secrets (Shell.line command))^[n] c = (.ended printed, h)) :
    ∃ k, (turn s m secrets)^[k] (session command next, c) = (session command next, .ended printed, h) := by
  induction n generalizing c with
  | zero => exact ⟨0, by rw [← hn]; rfl⟩
  | succ n ih =>
    rw [Function.iterate_succ_apply] at hn
    obtain ⟨stage, h'⟩ := c
    cases stage with
    | ended result =>
      rw [Session.turn] at hn
      exact ih hn
    | opening | known | made | narrowed | ready | leaving =>
      obtain ⟨k, hk⟩ := ih hn
      exact ⟨k + 1, hk⟩

/-- After some steps a plan has done what it does as a whole. -/
theorem exists_iterate_action (p : Plan α) (h : Host ω) :
    ∃ n, (turn s m secrets)^[n] (p, .opening, h) =
      (.done ((p.action (Session.run s m secrets)).outcome h).1, .opening,
        ((p.action (Session.run s m secrets)).outcome h).2) := by
  induction p generalizing h with
  | done result => exact ⟨0, rfl⟩
  | session command next ih =>
    obtain ⟨n, hn⟩ := Session.exists_iterate_run s m secrets command h
    obtain ⟨k, hk⟩ := @exists_iterate_session _ _ s m secrets _ next _ _ _ _ hn
    obtain ⟨l, hl⟩ := ih ((Session.run s m secrets command).outcome h).1
      ((Session.run s m secrets command).outcome h).2
    refine ⟨l + 1 + k, ?_⟩
    rw [Function.iterate_add_apply, hk, Function.iterate_succ_apply, turn, hl, action,
      Action.outcome_bind, Action.outcome_attempt]

end Plan

end RealmDriver
