import RealmDriver.Files.Tree

namespace RealmDriver

/-- A program with its arguments. A password is handed over in the environment, where no list of
running programs shows it. -/
structure Invocation where
  program : Path
  arguments : List String
  password : Option String := none
  deriving DecidableEq, Repr

inductive Ending where
  | exited (code : Nat)
  | killed (signal : Nat)
  deriving DecidableEq, Repr

namespace Ending

def isSuccess : Ending → Bool
  | exited code => code = 0
  | killed _ => false

def signalNames : List String :=
  ["SIGHUP", "SIGINT", "SIGQUIT", "SIGILL", "SIGTRAP", "SIGABRT", "SIGBUS", "SIGFPE", "SIGKILL",
    "SIGUSR1", "SIGSEGV", "SIGUSR2", "SIGPIPE", "SIGALRM", "SIGTERM", "SIGSTKFLT", "SIGCHLD",
    "SIGCONT", "SIGSTOP", "SIGTSTP", "SIGTTIN", "SIGTTOU", "SIGURG", "SIGXCPU", "SIGXFSZ",
    "SIGVTALRM", "SIGPROF", "SIGWINCH", "SIGIO", "SIGPWR", "SIGSYS"]

def text : Ending → String
  | exited code => s!"exit status: {code}"
  | killed signal =>
    match (signalNames[signal - 1]?).filter fun _ ↦ 0 < signal with
    | some name => s!"signal: {signal} ({name})"
    | none => s!"signal: {signal}"

end Ending

/-- What a program that has ended left behind. Its two output streams are one. -/
structure Finished where
  output : List UInt8
  ending : Ending
  deriving DecidableEq, Repr

/-- A machine whose state beside the files is in `ω`. -/
structure Machine (ω : Type) where
  find? : ω → String → Option Path
  run : Invocation → FileTree → ω → Except SystemFault Finished × ω
  readTable : ω → Except SystemFault (List UInt8) × ω

structure Host (ω : Type) where
  files : FileTree
  outside : ω

namespace Host

def onFiles (a : Action FileTree ε α) : Action (Host ω) ε α :=
  a.on Host.files fun files h ↦ { h with files }

def onOutside (a : Action ω ε α) : Action (Host ω) ε α :=
  a.on Host.outside fun outside h ↦ { h with outside }

end Host

namespace Machine

def missingProgram : String := "cannot find binary path"

def within (get : τ → ω) (set : ω → τ → τ) (m : Machine ω) : Machine τ where
  find? t name := m.find? (get t) name
  run i files t := let (r, s) := m.run i files (get t); (r, set s t)
  readTable t := let (r, s) := m.readTable (get t); (r, set s t)

def find (m : Machine ω) (name : String) : Action (Host ω) ε (Option Path) := do
  pure (m.find? (← get).outside name)

/-- Starts a program and waits for its end. Arguments end at a NUL, so they cannot hold one. -/
def start (m : Machine ω) (i : Invocation) : Action (Host ω) SystemFault Finished :=
  if (i.password.toList ++ i.arguments).any (·.toList.any (·.toNat = 0)) then
    throw .nulInArgument
  else Action.ofOutcome fun h ↦
    let (r, outside) := m.run i h.files h.outside
    (r, { h with outside })

end Machine

end RealmDriver
