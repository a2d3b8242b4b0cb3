import RealmDriver.Controller.Creation

namespace RealmDriver.Controller

variable {σ : Type}

def checkCredentials (secrets : Dictionary) : Except Failure Unit :=
  (Validation.credentials secrets).mapError fun e ↦ .invalidArgument e.message

/-- A volume that is gone already counts as deleted. -/
def afterDelete : Except RealmError Unit → Except Failure Unit
  | .ok () => .ok ()
  | .error e =>
    match e.kind with
    | .notFound => .ok ()
    | _ => .error (Creation.realmFailure "DeleteVolume" e)

def delete (realm : Realm σ) (r : DeleteRequest) : Action σ Failure Unit := do
  Action.ofExcept (checkCredentials r.secrets)
  Action.ofExcept (afterDelete (← (realm.delete r.volumeId r.secrets).attempt))

def checkValidate (r : ValidateRequest) : Except Failure Unit := do
  checkCredentials r.secrets
  if r.capabilities.any (!·.access.isMount) then
    throw (.invalidArgument ValidationError.blockUnsupported.message)

def afterLookup (r : ValidateRequest) :
    Except RealmError VolumeRecord → Except Failure ValidateResponse
  | .ok _ =>
    .ok (.confirmed
      { capabilities := r.capabilities, context := some r.context
        parameters := some r.parameters })
  | .error e =>
    match e.kind with
    | .notFound => .error (.volumeNotFound e.text)
    | _ => .error (.internal e.message)

def validate (realm : Realm σ) (r : ValidateRequest) : Action σ Failure ValidateResponse := do
  Action.ofExcept (checkValidate r)
  Action.ofExcept (afterLookup r (← (realm.lookup r.volumeId r.secrets).attempt))

def checkExpand (r : ExpandRequest) : Except Failure Unit := do
  checkCredentials r.secrets
  if r.capacity.required ≤ 0 then
    throw (.invalidArgument
      s!"required bytes must be positive, got {r.capacity.required.toInt}")

def afterExpand (r : ExpandRequest) : Except RealmError Unit → Except Failure ExpandResponse
  | .ok () => .ok { capacity := r.capacity.required.toInt.toNat, nodeExpansion := false }
  | .error e =>
    match e.kind with
    | .notFound => .error (.volumeNotFound e.text)
    | _ => .error (Creation.realmFailure "ControllerExpandVolume" e)

/-- Brings a volume to the capacity that is required; the limit is not looked at. -/
def expand (realm : Realm σ) (r : ExpandRequest) : Action σ Failure ExpandResponse := do
  Action.ofExcept (checkExpand r)
  Action.ofExcept
    (afterExpand r (← (realm.expand r.volumeId r.capacity.required.toInt r.secrets).attempt))

end RealmDriver.Controller
