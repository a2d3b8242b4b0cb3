import RealmDriver.Rpc.Status
import RealmDriver.Text.Utf8

namespace RealmDriver

namespace Status

def hexDigit? (b : UInt8) : Option Nat :=
  let n := b.toNat
  if 0x30 ≤ n ∧ n ≤ 0x39 then some (n - 0x30)
  else if 0x41 ≤ n ∧ n ≤ 0x46 then some (n - 0x37)
  else if 0x61 ≤ n ∧ n ≤ 0x66 then some (n - 0x57)
  else none

def escape : UInt8 := 0x25

def unescape : List UInt8 → List UInt8
  | mark :: a :: b :: bs =>
    match mark == escape, hexDigit? a, hexDigit? b with
    | true, some x, some y => UInt8.ofNat (16 * x + y) :: unescape bs
    | _, _, _ => mark :: unescape (a :: b :: bs)
  | bs => bs

/-- A failure as the caller gets it. One that calls itself a success looks like an answer that lacks
its message, and one whose text arrives as no text is unknown. -/
def delivered (s : Status) : Status :=
  match Text.decode (unescape s.message.toUTF8.data.toList) with
  | .error fault =>
    ⟨.unknown, "Error deserializing status message header: " ++ fault.message⟩
  | .ok text => if s.code = .ok then ⟨.internal, "Missing response message."⟩ else ⟨s.code, text⟩

end Status

end RealmDriver
