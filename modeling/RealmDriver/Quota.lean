import RealmDriver.Number.Shortest
import RealmDriver.Number.Numeral

namespace RealmDriver

/-- A quota in gigabytes. -/
abbrev Quota := Binary64

namespace Quota

abbrev gigabyte : Nat := 1 <<< 30

abbrev maxBytes : Nat := 1 <<< 63 - 1

def ofBytes (bytes : Int) : Quota := Binary64.ofRatio (bytes < 0) bytes.natAbs gigabyte

/-- Whole bytes, a half rounded up. A negative quota or a NaN is no bytes, and a quota beyond
`maxBytes` counts as that. -/
def toBytes : Quota → Nat
  | .nan | .signed true _ => 0
  | .signed false r =>
    min maxBytes ((2 * Binary64.units r.val * gigabyte + Binary64.one) / (2 * Binary64.one))

def text (q : Quota) : String := Binary64.text q

def read? (s : String) : Option Quota := Binary64.read? s

end Quota

end RealmDriver
