import RealmDriver.Number.Numeral
import RealmDriver.Realm.Attribute
import RealmDriver.Text.Blank
import RealmDriver.Volume.Request

namespace RealmDriver

inductive ParameterFault where
  | blank
  | notOneOf (allowed : List String)
  | notInteger (fault : IntegerFault)
  | zero
  | notBetween (least greatest : Nat)
  | noStripeUnit
  | unalignedStripeUnit
  deriving DecidableEq, Repr

namespace StripeUnit

def alignment : Nat := 16

def greatest : Nat := 4096

end StripeUnit

def ParameterFault.message : ParameterFault → String
  | .blank => "must not be empty"
  | .notOneOf allowed => "must be one of " ++ Text.commaSeparated allowed
  | .notInteger fault => "not an integer: " ++ fault.message
  | .zero => "must be greater than 0"
  | .notBetween least greatest => s!"must be between {least} and {greatest}"
  | .noStripeUnit => "must look like 64K or 1M"
  | .unalignedStripeUnit =>
    s!"must be a multiple of {StripeUnit.alignment}K between 1K and {StripeUnit.greatest}K"

/-- A refused value: the text that is wrong, all of a parameter or a part of it, and why. -/
structure Refusal where
  value : String
  fault : ParameterFault
  deriving DecidableEq, Repr

inductive CapacityFault where
  | negative
  | crossed (required limit : Int64)
  deriving DecidableEq, Repr

def CapacityFault.message : CapacityFault → String
  | .negative => "required and limit bytes must not be negative"
  | .crossed required limit =>
    s!"required bytes {required.toInt} exceed limit bytes {limit.toInt}"

/-- A text that is handed over in confidence, by its key. -/
inductive Secret where
  | realmAddress
  | user
  | password
  | privateKey
  | passphrase
  | keyManager
  deriving DecidableEq, Repr

def Secret.key : Secret → String
  | .realmAddress => "realm_ip"
  | .user => "user"
  | .password => "password"
  | .privateKey => "private_key"
  | .passphrase => "private_key_passphrase"
  | .keyManager => "kmip_config_data"

def Dictionary.secret? (secrets : Dictionary) (s : Secret) : Option String :=
  secrets.filled? s.key

inductive ValidationError where
  | missingName
  | missingCapabilities
  | blockUnsupported
  | sourceUnsupported
  | capacity (fault : CapacityFault)
  | parameter (name : Attribute) (refusal : Refusal)
  | missingSecret (secret : Secret)
  | noCredentials
  deriving DecidableEq, Repr

def ValidationError.message : ValidationError → String
  | .missingName => "volume name is empty"
  | .missingCapabilities => "no volume capabilities given"
  | .blockUnsupported => "block volumes are not supported"
  | .sourceUnsupported => "volume content sources are not supported"
  | .capacity fault => "invalid capacity range: " ++ fault.message
  | .parameter a ⟨value, fault⟩ =>
    s!"invalid value '{value}' for parameter {a.name}: " ++ fault.message
  | .missingSecret secret => "missing secret " ++ secret.key
  | .noCredentials => "no valid authentication credentials"

namespace Validation

def layouts : List String := ["raid6+", "raid5+", "raid10+", "raid5", "raid10"]

def permissions : List String :=
  ["none", "read-only", "write-only", "execute-only", "read-write", "read-execute",
    "write-execute", "all"]

def encryptionModes : List String := ["on", "off"]

def checkFilled (value : String) : Except Refusal Unit :=
  if Text.isBlankText value then .error ⟨value, .blank⟩ else .ok ()

def checkOneOf (allowed : List String) (value : String) : Except Refusal Unit :=
  if value ∈ allowed then .ok () else .error ⟨value, .notOneOf allowed⟩

def readNumber (value : String) : Except Refusal Nat :=
  (Numeral.readNat (UInt64.size - 1) value).mapError fun fault ↦ ⟨value, .notInteger fault⟩

def checkPositive (value : String) : Except Refusal Unit := do
  if (← readNumber value) = 0 then throw ⟨value, .zero⟩

def checkBetween (least greatest : Nat) (value : String) : Except Refusal Unit := do
  let n ← readNumber value
  if n < least ∨ greatest < n then throw ⟨value, .notBetween least greatest⟩

def stripeUnit? (value : String) : Option (List Char × Char) :=
  match value.toList.reverse with
  | u :: ds =>
    let digits := ds.reverse
    if u.toUpper ∈ ['K', 'M'] ∧ digits.all Numeral.isDigit ∧ digits.head?.any (· ≠ '0') then
      some (digits, u.toUpper)
    else none
  | [] => none

def checkStripeUnit (value : String) : Except Refusal Unit := do
  let some (digits, u) := stripeUnit? value | throw ⟨value, .noStripeUnit⟩
  let n ← readNumber (String.ofList digits)
  let kilobytes := if u = 'M' then n * 1024 else n
  if StripeUnit.greatest < kilobytes ∨ kilobytes % StripeUnit.alignment ≠ 0 then
    throw ⟨value, .unalignedStripeUnit⟩

def check : Attribute → String → Except Refusal Unit
  | .bladeset | .recoveryPriority | .efsa | .volservice | .user | .group => checkFilled
  | .layout => checkOneOf layouts
  | .maxWidth | .rgDepth => checkPositive
  | .stripeUnit => checkStripeUnit
  | .rgWidth => checkBetween 3 20
  | .userPermission | .groupPermission | .otherPermission => checkOneOf permissions
  | .encryption => checkOneOf encryptionModes
  | .description => fun _ ↦ .ok ()

def checkAttribute (parameters : Dictionary) (a : Attribute) : Except ValidationError Unit :=
  match parameters[a.key]? with
  | none => .ok ()
  | some value => (check a value).mapError (.parameter a)

def parameters (parameters : Dictionary) : Except ValidationError Unit :=
  Attribute.all.forM (checkAttribute parameters)

def capacityRange : Option CapacityRange → Except ValidationError Unit
  | none => .ok ()
  | some r =>
    if r.required < 0 ∨ r.limit < 0 then .error (.capacity .negative)
    else if r.required ≠ 0 ∧ r.limit ≠ 0 ∧ r.limit < r.required then
      .error (.capacity (.crossed r.required r.limit))
    else .ok ()

def creation (r : CreateRequest) : Except ValidationError Unit := do
  if r.name = "" then throw .missingName
  if r.capabilities.isEmpty then throw .missingCapabilities
  if r.capabilities.any (!·.access.isMount) then throw .blockUnsupported
  if r.source.isSome then throw .sourceUnsupported
  capacityRange r.capacity
  parameters r.parameters

/-- Whether there is enough to open a session at the realm: its address, a user, and a password or a
private key. -/
def credentials (secrets : Dictionary) : Except ValidationError Unit := do
  if (secrets.secret? .realmAddress).isNone then throw (.missingSecret .realmAddress)
  if (secrets.secret? .user).isNone then throw (.missingSecret .user)
  if (secrets.secret? .password).isNone ∧ (secrets.secret? .privateKey).isNone then
    throw .noCredentials

end Validation

end RealmDriver
