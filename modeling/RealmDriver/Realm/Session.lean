import RealmDriver.Machine.Basic
import RealmDriver.Realm.Error
import RealmDriver.Text.Shell
import RealmDriver.Text.Utf8
import RealmDriver.Validation

namespace RealmDriver

/-- How realms are reached. Without a file of known hosts, whichever host answers is trusted. -/
structure SessionSettings where
  /-- In seconds. -/
  connectTimeout : Nat
  knownHosts : Option Path := none
  /-- Where files with private keys are put. -/
  keyDirectory : Path

inductive Login where
  | key (text : String) (passphrase : Option String)
  | password (text : String)
  deriving DecidableEq, Repr

namespace Login

/-- A private key is used rather than a password. -/
def ofSecrets? (secrets : Dictionary) : Option Login :=
  match secrets.secret? .privateKey with
  | some text => some (key text (secrets.secret? .passphrase))
  | none => (secrets.secret? .password).map password

def typed? : Login → Option String
  | key _ passphrase => passphrase
  | password text => some text

def prompt : Login → List String
  | key .. => ["-P", "passphrase"]
  | password _ => []

end Login

namespace SessionSettings

def options (s : SessionSettings) : List String :=
  let hosts := match s.knownHosts with
    | some path => ["-o", "StrictHostKeyChecking=yes", "-o", "UserKnownHostsFile=" ++ path]
    | none => ["-o", "StrictHostKeyChecking=no", "-o", "UserKnownHostsFile=/dev/null"]
  ["-o", s!"ConnectTimeout={s.connectTimeout}"] ++ hosts ++ ["-o", "LogLevel=ERROR"]

end SessionSettings

structure Destination where
  realm : String
  user : String
  shell : Path

namespace Session

variable {ω : Type}

def require (secrets : Dictionary) (s : Secret) : Except RealmError String :=
  match secrets.secret? s with
  | some text => .ok text
  | none => .error ⟨.unauthenticated, (ValidationError.missingSecret s).message⟩

def find (m : Machine ω) (name : String) : Action (Host ω) RealmError Path := do
  match ← m.find name with
  | some p => pure p
  | none => throw ⟨.unavailable, s!"{name} not found: {Machine.missingProgram}"⟩

def destination (m : Machine ω) (secrets : Dictionary) :
    Action (Host ω) RealmError Destination := do
  let realm ← Action.ofExcept (require secrets .realmAddress)
  let user ← Action.ofExcept (require secrets .user)
  return { realm, user, shell := ← find m "ssh" }

def keyContent (key : String) : String :=
  if key.toList.getLast? = some '\n' then key else key ++ "\n"

def keyError (text : String) : RealmError := ⟨.internal, "private key file: " ++ text⟩

/-- Puts a key into a new file that only its owner can read. -/
def writeKey (dir : Path) (key : String) : Action FileTree RealmError Path := do
  let path ← (Action.yielding (·.createFresh dir "panfs-csi-key-" "")).rephrase
    fun (fault, path) ↦ keyError s!"{fault.message} at path {Text.quoted path}"
  let fill : Action FileTree RealmError Unit := do
    (Action.atomically (·.setMode path 0o600)).rephrase (keyError ·.message)
    (FileTree.writeAll path (keyContent key)).rephrase (keyError ·.message)
  fill.onFailure (·.discard path)
  pure path

def loginOptions : Login → Option Path → List String
  | .key _ passphrase, path =>
    ["-i", path.getD ""] ++ (if passphrase.isNone then ["-o", "BatchMode=yes"] else [])
  | .password _, _ => ["-o", "PubkeyAuthentication=no"]

def arguments (s : SessionSettings) (d : Destination) (login : Login) (keyPath : Option Path)
    (command : String) : List String :=
  s.options ++ loginOptions login keyPath ++ [s!"{d.user}@{d.realm}", command]

/-- The start of a session, behind the typing program if there is something to type in. -/
def invocation (m : Machine ω) (d : Destination) (login : Login) (arguments : List String) :
    Action (Host ω) RealmError Invocation := do
  match login.typed? with
  | none => pure { program := d.shell, arguments }
  | some text =>
    let typist ← find m "sshpass"
    pure
      { program := typist
        arguments := ["-e"] ++ login.prompt ++ [d.shell] ++ arguments
        password := some text }

def refusedPassword : Int := 5

def exitCode : Ending → Int
  | .exited code => code
  | .killed _ => -1

/-- What a session that has ended means. A failure may still be a success by what was said. -/
def outcome (typed : Bool) (f : Finished) : Except RealmError String :=
  let text := Text.decodeLossy f.output
  let said := Text.trim text
  let code := exitCode f.ending
  if f.ending.isSuccess then .ok text
  else if (typed && code = refusedPassword) || Text.mentions "permission denied" text then
    .error ⟨.unauthenticated, said⟩
  else (classify s!"{said}: exit status {code}").map fun _ ↦ text

def exec (m : Machine ω) (i : Invocation) : Action (Host ω) RealmError String := do
  let finished ← (m.start i).rephrase fun fault ↦
    ⟨.unavailable, s!"failed to run {i.program}: {fault.message}"⟩
  Action.ofExcept (outcome i.password.isSome finished)

/-- Runs a command in a session with a login. A file with a key is removed in the end. -/
def runAs (s : SessionSettings) (m : Machine ω) (d : Destination) (login : Login)
    (command : String) : Action (Host ω) RealmError String := do
  let session (keyPath : Option Path) : Action (Host ω) RealmError String := do
    exec m (← invocation m d login (arguments s d login keyPath command))
  match login with
  | .password _ => session none
  | .key text _ =>
    let path ← Host.onFiles (writeKey s.keyDirectory text)
    (session (some path)).andAlways fun h ↦ { h with files := h.files.discard path }

/-- Runs a command at the realm that the secrets name, and returns what it printed. -/
def run (s : SessionSettings) (m : Machine ω) (secrets : Dictionary) (command : List String) :
    Action (Host ω) RealmError String := do
  let d ← destination m secrets
  match Login.ofSecrets? secrets with
  | none => throw ⟨.unauthenticated, ValidationError.noCredentials.message⟩
  | some login => runAs s m d login (Shell.line command)

end Session

end RealmDriver
