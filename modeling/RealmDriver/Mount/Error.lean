import RealmDriver.Files.Fault
import RealmDriver.Number.Numeral

namespace RealmDriver

inductive TableFault where
  | notText
  | wrongFields (found : Nat)
  | badFrequency (fault : IntegerFault)
  | badPass (fault : IntegerFault)
  deriving DecidableEq, Repr

def tableFields : Nat := 6

def TableFault.message : TableFault → String
  | .notText => "proc mounts contain invalid UTF8"
  | .wrongFields found => s!"wrong number of fields (expected {tableFields}, got {found})"
  | .badFrequency fault => "invalid freq: " ++ fault.message
  | .badPass fault => "invalid pass: " ++ fault.message

def tablePath : String := "/proc/mounts"

inductive MountError where
  | mountFailed (text : String)
  | unmountFailed (text : String)
  | invalidTable (fault : TableFault)
  /-- The table changed every time it was read. -/
  | unsteadyTable (attempts : Nat)
  | missingProgram (name text : String)
  | system (fault : SystemFault)
  deriving DecidableEq, Repr

def MountError.message : MountError → String
  | .mountFailed text => "Mount failed: " ++ text
  | .unmountFailed text => "Unmount failed: " ++ text
  | .invalidTable fault => "Invalid mount table: " ++ fault.message
  | .unsteadyTable attempts =>
    s!"could not get consistent content of '{tablePath}' after {attempts} attempts"
  | .missingProgram name text => s!"{name} not found in PATH: {text}"
  | .system fault => fault.message

end RealmDriver
