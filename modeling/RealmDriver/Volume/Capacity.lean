import RealmDriver.Text.Quoted

namespace RealmDriver

structure CapacityRange where
  required : Int64 := 0
  limit : Int64 := 0
  deriving DecidableEq, Repr

namespace CapacityRange

def printed (r : CapacityRange) : String :=
  Text.printedRecord "CapacityRange"
    [("required_bytes", toString r.required.toInt), ("limit_bytes", toString r.limit.toInt)]

end CapacityRange

end RealmDriver
