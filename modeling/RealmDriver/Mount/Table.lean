import RealmDriver.Mount.Error
import RealmDriver.Mount.Point
import RealmDriver.Text.Utf8

namespace RealmDriver.MountTable

def readLine (line : List Char) : Except TableFault MountPoint :=
  match (Text.words line).map String.ofList with
  | [device, path, fsType, options, frequency, pass] => do
    let frequency ← (Numeral.readInt64 frequency).mapError .badFrequency
    let pass ← (Numeral.readInt64 pass).mapError .badPass
    let options := (Text.splitAt (· = ',') options.toList).map String.ofList
    pure { device, path, fsType, options, frequency, pass }
  | fields => .error (.wrongFields fields.length)

def readText (text : String) : Except TableFault (List MountPoint) :=
  ((Text.lines text.toList).filter (!·.all Text.isBlank)).mapM readLine

def read (bytes : List UInt8) : Except TableFault (List MountPoint) :=
  match Text.decode bytes with
  | .ok text => readText text
  | .error _ => .error .notText

end RealmDriver.MountTable
