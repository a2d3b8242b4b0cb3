import RealmDriver.Realm.Basic
import RealmDriver.Rpc.Failure
import RealmDriver.Service.Warning
import RealmDriver.Validation
import RealmDriver.Volume.Response

namespace RealmDriver.Creation

/-- The capacity that a request asks for is not that of the volume of the same name. -/
inductive Conflict where
  | tooSmall (name : String) (soft : Nat) (required : Int64)
  | otherLimit (name : String) (hard : Nat) (limit : Int64)
  deriving DecidableEq, Repr

def Conflict.message : Conflict → String
  | .tooSmall name soft required =>
    s!"volume {name} exists with soft quota {soft} bytes, " ++
      s!"smaller than the required {required.toInt} bytes"
  | .otherLimit name hard limit =>
    s!"volume {name} exists with hard quota {hard} bytes, " ++
      s!"not the requested limit of {limit.toInt} bytes"

def withQuota (b : Bound) (bytes : Int64) (parameters : Dictionary) : Dictionary :=
  if 0 < bytes then parameters.insert b.key (Quota.ofBytes bytes.toInt).text else parameters

/-- The parameters that the realm gets: those of the request, and the quotas of its capacity
range. -/
def parameters (given : Dictionary) : Option CapacityRange → Dictionary
  | none => given
  | some r => withQuota .hard r.limit (withQuota .soft r.required given)

/-- Why a volume that exists does not fit a capacity range. -/
def conflict? (record : VolumeRecord) : Option CapacityRange → Option Conflict
  | none => none
  | some r =>
    if (record.softBytes : Int) < r.required.toInt then
      some (.tooSmall record.name record.softBytes r.required)
    else if r.limit ≠ 0 ∧ record.hardBytes ≠ 0 ∧ r.limit.toInt ≠ record.hardBytes then
      some (.otherLimit record.name record.hardBytes r.limit)
    else none

def volume (record : VolumeRecord) : Volume :=
  { id := record.name, capacity := record.softBytes, context := record.context }

/-- What the caller is told when the realm failed; the realm's own words stay out of it. -/
def realmFailure (call : String) (e : RealmError) : Failure :=
  .internal s!"{call} failed: {e.kind.text} error from the realm"

def check (r : CreateRequest) : Except Failure Unit := do
  (Validation.creation r).mapError fun e ↦ .invalidArgument e.message
  (Validation.credentials r.secrets).mapError fun e ↦ .invalidArgument e.message

def requestedEncryption (r : CreateRequest) : String :=
  (parameters r.parameters r.capacity).getD Attribute.encryption.key "off"

/-- A volume that was created or found, and what is worth a warning about it. -/
structure Created where
  volume : Volume
  warnings : List Warning := []

def ofNew (r : CreateRequest) (record : VolumeRecord) : Created where
  volume := volume record
  warnings :=
    if requestedEncryption r = record.encryption then []
    else [.encryption r.name (requestedEncryption r) record.encryption]

inductive Next where
  | finish (outcome : Except Failure Created)
  | lookup

def afterCreate (r : CreateRequest) : Except RealmError VolumeRecord → Next
  | .ok record => .finish (.ok (ofNew r record))
  | .error e =>
    match e.kind with
    | .alreadyExists => .lookup
    | _ => .finish (.error (realmFailure "CreateVolume" e))

def afterLookup (r : CreateRequest) :
    Except RealmError VolumeRecord → Except Failure Created
  | .ok record =>
    match conflict? record r.capacity with
    | some c => .error (.conflict c.message)
    | none => .ok { volume := volume record }
  | .error e => .error (realmFailure "CreateVolume" e)

def run (realm : Realm σ) (r : CreateRequest) : Action σ Failure Created := do
  Action.ofExcept (check r)
  match afterCreate r
      (← (realm.create r.name (parameters r.parameters r.capacity) r.secrets).attempt) with
  | .finish outcome => Action.ofExcept outcome
  | .lookup => Action.ofExcept (afterLookup r (← (realm.lookup r.name r.secrets).attempt))

end RealmDriver.Creation
