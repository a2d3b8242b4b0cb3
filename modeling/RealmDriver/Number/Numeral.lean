import RealmDriver.Number.Binary64

namespace RealmDriver

inductive IntegerFault where
  | empty
  | invalidDigit
  | tooLarge
  | tooSmall
  deriving DecidableEq, Repr

def IntegerFault.message : IntegerFault → String
  | .empty => "cannot parse integer from empty string"
  | .invalidDigit => "invalid digit found in string"
  | .tooLarge => "number too large to fit in target type"
  | .tooSmall => "number too small to fit in target type"

namespace Numeral

def isDigit (c : Char) : Bool := '0' ≤ c && c ≤ '9'

def digitValue (c : Char) : Nat := c.toNat - '0'.toNat

def value (cs : List Char) : Nat := cs.foldl (fun n c ↦ 10 * n + digitValue c) 0

/-- Reads digits from the left after a number already read. A character that is no digit is found
only if the digits before it stay within `limit`. -/
def readDigits (limit : Nat) (excess : IntegerFault) (n : Nat) : List Char → Except IntegerFault Nat
  | [] => .ok n
  | c :: cs =>
    if !isDigit c then .error .invalidDigit
    else if limit < 10 * n + digitValue c then .error excess
    else readDigits limit excess (10 * n + digitValue c) cs

def readNumeral (limit : Nat) (excess : IntegerFault) (cs : List Char) : Except IntegerFault Nat :=
  if cs.isEmpty then .error .invalidDigit else readDigits limit excess 0 cs

def readNat (limit : Nat) (s : String) : Except IntegerFault Nat :=
  match s.toList with
  | [] => .error .empty
  | '+' :: cs => readNumeral limit .tooLarge cs
  | cs => readNumeral limit .tooLarge cs

abbrev int64Bound : Nat := 1 <<< 63

def readInt64 (s : String) : Except IntegerFault Int :=
  match s.toList with
  | [] => .error .empty
  | '-' :: cs => (readNumeral int64Bound .tooSmall cs).map fun n ↦ -(n : Int)
  | '+' :: cs => (readNumeral (int64Bound - 1) .tooLarge cs).map fun n ↦ (n : Int)
  | cs => (readNumeral (int64Bound - 1) .tooLarge cs).map fun n ↦ (n : Int)

end Numeral

namespace Binary64

/-- Digits, a point, digits and a power of ten. A digit is needed on one side of the point, and
after the mark of the power. -/
def readNumber? (negative : Bool) (cs : List Char) : Option Binary64 :=
  let whole := cs.takeWhile Numeral.isDigit
  let rest := cs.dropWhile Numeral.isDigit
  let (fraction, rest) := match rest with
    | '.' :: r => (r.takeWhile Numeral.isDigit, r.dropWhile Numeral.isDigit)
    | r => ([], r)
  let digits := whole ++ fraction
  if digits.isEmpty then none
  else (power? rest).map fun e ↦
    ofDecimal negative (Numeral.value digits) digits.length (e - fraction.length)
where
  power? : List Char → Option Int
    | [] => some 0
    | m :: r =>
      if m = 'e' ∨ m = 'E' then
        match r with
        | '-' :: ds => (exponent? ds).map fun n ↦ -(n : Int)
        | '+' :: ds => (exponent? ds).map fun n ↦ (n : Int)
        | ds => (exponent? ds).map fun n ↦ (n : Int)
      else none
  exponent? (ds : List Char) : Option Nat :=
    if ds.isEmpty || !ds.all Numeral.isDigit then none else some (Numeral.value ds)

def readUnsigned? (negative : Bool) (cs : List Char) : Option Binary64 :=
  let word := cs.map Char.toLower
  if word = "inf".toList ∨ word = "infinity".toList then some (infinity negative)
  else if word = "nan".toList then some .nan
  else readNumber? negative cs

/-- The double that a decimal text denotes, correctly rounded. -/
def read? (s : String) : Option Binary64 :=
  match s.toList with
  | '-' :: cs => readUnsigned? true cs
  | '+' :: cs => readUnsigned? false cs
  | cs => readUnsigned? false cs

end Binary64

end RealmDriver
