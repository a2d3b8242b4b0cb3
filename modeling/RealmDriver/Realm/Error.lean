import RealmDriver.Text.Blank
import RealmDriver.Text.Search

namespace RealmDriver

inductive RealmError.Kind where
  | alreadyExists
  | notFound
  | invalidArgument
  | unauthenticated
  | unavailable
  | internal
  deriving DecidableEq, Repr

def RealmError.Kind.text : RealmError.Kind → String
  | .alreadyExists => "already exists"
  | .notFound => "not found"
  | .invalidArgument => "invalid argument"
  | .unauthenticated => "unauthenticated"
  | .unavailable => "unavailable"
  | .internal => "internal"

structure RealmError where
  kind : RealmError.Kind
  text : String
  deriving DecidableEq, Repr

def RealmError.message (e : RealmError) : String := e.kind.text ++ ": " ++ e.text

/-- What a phrase says about the command that was answered with it. -/
inductive Verdict where
  | done
  | failed (kind : RealmError.Kind)
  deriving DecidableEq, Repr

namespace Verdict

/-- The phrases by falling priority. The failures that repeat a request is meant to meet come before
the marks of success, which a failing answer may also hold. -/
def phrases : List (String × Verdict) :=
  [("already exists", .failed .alreadyExists),
    ("no volume with name", .failed .notFound),
    ("successfully", .done),
    ("<volumes>", .done),
    ("do not exist", .failed .notFound),
    ("invalid string", .failed .invalidArgument),
    ("should be", .failed .invalidArgument),
    ("status 255", .failed .unavailable)]

/-- The verdict of the first phrase that the text mentions; a text without any is a failure of no
known kind. -/
def ofText (s : String) : Verdict :=
  match phrases.find? fun p ↦ Text.mentions p.1 s with
  | some p => p.2
  | none => .failed .internal

end Verdict

/-- Success, or the failure that an answer of the realm stands for, with the answer's text trimmed. -/
def classify (s : String) : Except RealmError Unit :=
  match Verdict.ofText s with
  | .done => .ok ()
  | .failed kind => .error ⟨kind, Text.trim s⟩

end RealmDriver
