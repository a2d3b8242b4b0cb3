namespace RealmDriver

namespace Binary64

abbrev binade : Nat := 1 <<< 52

/-- The rank after that of the largest finite double. -/
abbrev infinityRank : Nat := 2047 * binade

abbrev one : Nat := 1 <<< 1074

/-- How far the significand of a rank is shifted. Subnormal ranks and the first binade of normal
ones are not shifted. -/
def shift (rank : Nat) : Nat := rank / binade - 1

def significand (rank : Nat) : Nat := rank - shift rank * binade

/-- The value of a rank in units of 2^-1074. Infinity counts as 2^1024, where rounding to it
begins to be nearer than the next double would be. -/
def units (rank : Nat) : Nat := significand rank <<< shift rank

/-- The quotient `num / den` rounded to a whole number, a half going to the even neighbour. -/
def roundHalfEven (num den : Nat) : Nat :=
  let q := num / den
  let r := num % den
  if 2 * r < den ∨ (2 * r = den ∧ q % 2 = 0) then q else q + 1

def nearestRank (num den : Nat) : Nat :=
  let e := (num / den).log2 - 52
  min infinityRank (e * binade + roundHalfEven num (den <<< e))

end Binary64

/-- A binary64 number. All NaNs are one. -/
inductive Binary64 where
  | nan
  | signed (negative : Bool) (rank : Fin (Binary64.infinityRank + 1))
  deriving DecidableEq, Repr

namespace Binary64

def ofRank (negative : Bool) (rank : Nat) : Binary64 :=
  .signed negative ⟨min infinityRank rank, by omega⟩

def zero : Binary64 := ofRank false 0

instance : Inhabited Binary64 := ⟨zero⟩

def infinity (negative : Bool) : Binary64 := ofRank negative infinityRank

def ofRatio (negative : Bool) (num den : Nat) : Binary64 :=
  ofRank negative (nearestRank (num * one) den)

/-- Significant digits and a power of ten, `digits * 10 ^ exponent`, read as the nearest double.
Beyond 10^400 every double is too small and below 10^-400 every positive one too large, so the
power is not computed there; `places` is a bound on the number of digits. -/
def ofDecimal (negative : Bool) (digits places : Nat) (exponent : Int) : Binary64 :=
  if digits = 0 then ofRank negative 0
  else if exponent > 400 then infinity negative
  else if exponent + places < -400 then ofRank negative 0
  else if exponent ≥ 0 then ofRatio negative (digits * Nat.pow 10 exponent.toNat) 1
  else ofRatio negative digits (Nat.pow 10 (-exponent).toNat)

/-- Place in the order of all numbers; both zeros have place 0. -/
def place : Binary64 → Option Int
  | .nan => none
  | .signed true r => some (-(r.val : Int))
  | .signed false r => some r.val

/-- Numerical order. A NaN is not below anything and nothing is below it. -/
def lt (x y : Binary64) : Bool :=
  match x.place, y.place with
  | some a, some b => a < b
  | _, _ => false

def isPositive (x : Binary64) : Bool := zero.lt x

abbrev signBit : Nat := 1 <<< 63

def ofWord (word : UInt64) : Binary64 :=
  let rank := word.toNat % signBit
  if infinityRank < rank then .nan else ofRank (signBit ≤ word.toNat) rank

/-- The word of a number; a NaN has no word of its own. -/
def toWord? : Binary64 → Option UInt64
  | .nan => none
  | .signed negative r => some (UInt64.ofNat (r.val + if negative then signBit else 0))

end Binary64

end RealmDriver
