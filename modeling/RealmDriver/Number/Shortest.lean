import RealmDriver.Number.Binary64

namespace RealmDriver.Binary64

def lowerHalf (rank : Nat) : Nat := units (rank - 1) + units rank

def upperHalf (rank : Nat) : Nat := units rank + units (rank + 1)

/-- Whether the decimal `num / den`, in units, reads back as `rank`. The two halfway values belong
to the even rank. -/
def readsBack (rank num den : Nat) : Bool :=
  let low := lowerHalf rank * den
  let high := upperHalf rank * den
  if rank % 2 = 0 then low ≤ 2 * num && 2 * num ≤ high else low < 2 * num && 2 * num < high

/-- The least `n` with `num < den * 10 ^ n`, the fuel being an upper bound on it. -/
def tenfold (num den : Nat) : Nat → Nat
  | 0 => 0
  | fuel + 1 => if num < den then 0 else 1 + tenfold num (den * 10) fuel

structure Decimal where
  digits : Nat
  exponent : Int
  deriving DecidableEq, Repr

/-- The power of ten just above the value of a positive rank. -/
def magnitude (rank : Nat) : Int :=
  let u := units rank
  if one ≤ u then tenfold u one 310
  else 1 - (tenfold one u 325 : Int)

def Decimal.fraction (d : Decimal) : Nat × Nat :=
  (d.digits * one * Nat.pow 10 d.exponent.toNat, Nat.pow 10 (-d.exponent).toNat)

/-- The decimal of the grid `10 ^ exponent` that is nearest to `rank` among those that read back,
if one does. -/
def onGrid (rank : Nat) (exponent : Int) : Option Decimal :=
  let den := one * Nat.pow 10 exponent.toNat
  let num := units rank * Nat.pow 10 (-exponent).toNat
  let below : Decimal := ⟨num / den, exponent⟩
  let above : Decimal := ⟨num / den + 1, exponent⟩
  let fits (d : Decimal) : Bool := readsBack rank d.fraction.1 d.fraction.2
  if fits below && (!fits above || 2 * (num % den) < den) then some below
  else if fits above then some above
  else none

/-- The first grid, from coarse to fine, with a decimal that reads back. Seventeen digits always
suffice. -/
def shortestFrom (rank : Nat) (top : Int) : Nat → Nat → Decimal
  | 0, n => ⟨units rank, -(n : Int)⟩
  | fuel + 1, n => (onGrid rank (top - n)).getD (shortestFrom rank top fuel (n + 1))

def shortest (rank : Nat) : Decimal := shortestFrom rank (magnitude rank) 17 1

def Decimal.normalize (d : Decimal) : Nat → Decimal
  | 0 => d
  | fuel + 1 =>
    if d.digits % 10 = 0 ∧ d.digits ≠ 0 then normalize ⟨d.digits / 10, d.exponent + 1⟩ fuel else d

def Decimal.positional (d : Decimal) : List Char :=
  let digits := Nat.toDigits 10 d.digits
  let point : Int := digits.length + d.exponent
  if point ≤ 0 then '0' :: '.' :: List.replicate (-point).toNat '0' ++ digits
  else if d.exponent ≥ 0 then digits ++ List.replicate d.exponent.toNat '0'
  else digits.take point.toNat ++ '.' :: digits.drop point.toNat

def rankText (rank : Nat) : List Char :=
  if rank = 0 then ['0']
  else if rank = infinityRank then ['i', 'n', 'f']
  else ((shortest rank).normalize 20).positional

def text : Binary64 → String
  | .nan => "NaN"
  | .signed true r => String.ofList ('-' :: rankText r.val)
  | .signed false r => String.ofList (rankText r.val)

end RealmDriver.Binary64
