import RealmDriver.Dictionary
import RealmDriver.Settings.Basic

namespace RealmDriver

inductive CommandLineFault where
  | value (setting : Setting) (fault : ValueFault)
  | missingValue (setting : Setting)
  | unexpectedValue (word : String)
  | repeated (setting : Setting)
  | unknownWord (word : String)
  /-- No fault: an explanation is wanted instead of a start. -/
  | helpWanted
  | versionWanted
  deriving DecidableEq, Repr

def CommandLineFault.message : CommandLineFault → String
  | .value s .impossible => s!"--{s.option} has no such value"
  | .value s .unreadable => s!"the value of --{s.option} cannot be read"
  | .missingValue s => s!"--{s.option} needs a value"
  | .unexpectedValue word => s!"an option without a value was given one: {word}"
  | .repeated s => s!"--{s.option} is given twice"
  | .unknownWord word => s!"unexpected word: {word}"
  | .helpWanted => "help is wanted"
  | .versionWanted => "the version is wanted"

namespace CommandLine

inductive Flag where
  | setting (s : Setting)
  | help
  | version
  deriving DecidableEq, Repr

namespace Flag

def ofName? (name : String) : Option Flag :=
  if name = "help" then some help
  else if name = "version" then some version
  else (Setting.ofOption? name).map setting

def ofLetter? (c : Char) : Option Flag :=
  if c = 'h' then some help else if c = 'V' then some version else none

end Flag

inductive Word where
  | option (flag : Flag) (value : Option String)
  | unknownOption
  /-- Everything behind it is no option. -/
  | separator
  | plain
  deriving DecidableEq, Repr

/-- A long option begins with two dashes. Of several letters behind one dash only the first counts,
since no letter has a value and each ends the reading. -/
def Word.ofText (word : String) : Word :=
  match word.toList with
  | ['-', '-'] => .separator
  | '-' :: '-' :: cs =>
    let name := cs.takeWhile (· ≠ '=')
    match Flag.ofName? (String.ofList name), cs.drop name.length with
    | none, _ => .unknownOption
    | some flag, [] => .option flag none
    | some flag, _ :: value => .option flag (some (String.ofList value))
  | '-' :: c :: _ =>
    match Flag.ofLetter? c with
    | some flag => .option flag none
    | none => .unknownOption
  | _ => .plain

/-- An option whose value may be the next word, or was the last one. -/
structure Pending where
  setting : Setting
  value : Option String := none

structure Progress where
  settings : Settings := {}
  given : List Setting := []
  pending : Option Pending := none
  /-- Whether there were words between which options end. -/
  separated : Bool := false

namespace Progress

/-- Takes a value; a setting may be given once. -/
def take (p : Progress) (s : Setting) (text : String) : Except CommandLineFault Progress :=
  if s ∈ p.given then .error (.repeated s)
  else match p.settings.assign text s with
    | .ok settings => .ok { p with settings, given := s :: p.given }
    | .error fault => .error (.value s fault)

def resolve (p : Progress) : Except CommandLineFault Progress :=
  match p.pending with
  | none => .ok p
  | some { setting, value := none } => .error (.missingValue setting)
  | some { setting, value := some text } => { p with pending := none }.take setting text

def begin (p : Progress) (s : Setting) : Option String → Except CommandLineFault Progress
  | some text => do (← p.resolve).take s text
  | none => do
    let p ← p.resolve
    if s.isFlag then p.take s "true" else pure { p with pending := some { setting := s } }

def plain (p : Progress) (word : String) : Except CommandLineFault Progress :=
  match p.pending with
  | some { setting, value := none } =>
    .ok { p with pending := some { setting, value := some word } }
  | _ => .error (.unknownWord word)

def word (p : Progress) (word : String) : Except CommandLineFault Progress :=
  if p.separated then .error (.unknownWord word)
  else match Word.ofText word with
    | .separator => .ok { p with separated := true }
    | .unknownOption => .error (.unknownWord word)
    | .plain => p.plain word
    | .option (.setting s) value =>
      if s.isFlag ∧ value.isSome then .error (.unexpectedValue word) else p.begin s value
    | .option _ (some _) => .error (.unexpectedValue word)
    | .option .help none => do let _ ← p.resolve; throw .helpWanted
    | .option .version none => do let _ ← p.resolve; throw .versionWanted

def ask (environment : Dictionary) (p : Progress) (s : Setting) :
    Except CommandLineFault Progress :=
  if s ∈ p.given then .ok p
  else match environment[s.environment]? with
    | some text => p.take s text
    | none => .ok p

end Progress

def read (words : List String) (environment : Dictionary) : Except CommandLineFault Settings := do
  let p ← words.foldlM Progress.word {}
  let p ← p.resolve
  return (← Setting.all.foldlM (Progress.ask environment) p).settings

end CommandLine

end RealmDriver
