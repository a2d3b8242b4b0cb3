namespace RealmDriver.Text

def replacement : Char := Char.ofNat 0xFFFD

/-- A character whose first bytes were read: how many are missing, between which values the next one
lies, and the bits so far. -/
structure Begun where
  missing : Nat
  low : Nat
  high : Nat
  bits : Nat

inductive FirstByte where
  | whole (c : Char)
  | begins (b : Begun)
  | stray

/-- The ranges of the second byte keep out encodings that are too long, surrogates, and numbers
beyond the last character. -/
def firstByte (n : Nat) : FirstByte :=
  if n < 0x80 then .whole (Char.ofNat n)
  else if n < 0xC2 then .stray
  else if n < 0xE0 then .begins ⟨1, 0x80, 0xBF, n % 32⟩
  else if n < 0xF0 then
    .begins ⟨2, if n = 0xE0 then 0xA0 else 0x80, if n = 0xED then 0x9F else 0xBF, n % 16⟩
  else if n < 0xF5 then
    .begins ⟨3, if n = 0xF0 then 0x90 else 0x80, if n = 0xF4 then 0x8F else 0xBF, n % 8⟩
  else .stray

def readOn : Option Begun → List UInt8 → List Char
  | none, [] => []
  | some _, [] => [replacement]
  | none, b :: bs =>
    match firstByte b.toNat with
    | .whole c => c :: readOn none bs
    | .begins p => readOn (some p) bs
    | .stray => replacement :: readOn none bs
  | some p, b :: bs =>
    if p.low ≤ b.toNat ∧ b.toNat ≤ p.high then
      let bits := 64 * p.bits + b.toNat % 64
      if p.missing ≤ 1 then Char.ofNat bits :: readOn none bs
      else readOn (some ⟨p.missing - 1, 0x80, 0xBF, bits⟩) bs
    else
      replacement :: match firstByte b.toNat with
        | .whole c => c :: readOn none bs
        | .begins p => readOn (some p) bs
        | .stray => replacement :: readOn none bs

def decodeLossy (bytes : List UInt8) : String := String.ofList (readOn none bytes)

/-- Where bytes cease to be text: some of them begin no character, or the last one is cut off. -/
inductive Utf8Fault where
  | invalid (length index : Nat)
  | incomplete (index : Nat)
  deriving DecidableEq, Repr

def Utf8Fault.message : Utf8Fault → String
  | .invalid length index => s!"invalid utf-8 sequence of {length} bytes from index {index}"
  | .incomplete index => s!"incomplete utf-8 byte sequence from index {index}"

/-- The first place at which bytes are no text. The next character begins at `index`, and `read` of
its bytes were read. Bytes that are text have it at their end. -/
def firstFault (index read : Nat) : Option Begun → List UInt8 → Utf8Fault
  | _, [] => .incomplete index
  | none, b :: bs =>
    match firstByte b.toNat with
    | .whole _ => firstFault (index + 1) 0 none bs
    | .begins p => firstFault index 1 (some p) bs
    | .stray => .invalid 1 index
  | some p, b :: bs =>
    if p.low ≤ b.toNat ∧ b.toNat ≤ p.high then
      if p.missing ≤ 1 then firstFault (index + read + 1) 0 none bs
      else
        firstFault index (read + 1) (some ⟨p.missing - 1, 0x80, 0xBF, 64 * p.bits + b.toNat % 64⟩)
          bs
    else .invalid read index

/-- The text that bytes are, if they are one. -/
def decode (bytes : List UInt8) : Except Utf8Fault String :=
  match String.fromUTF8? ⟨bytes.toArray⟩ with
  | some text => .ok text
  | none => .error (firstFault 0 0 none bytes)

end RealmDriver.Text
