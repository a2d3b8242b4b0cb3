import RealmDriver.Proofs.Number.Rounding

namespace RealmDriver.Binary64

theorem ten_pow_pos (n : Nat) : 0 < Nat.pow 10 n := Nat.pow_pos (by omega)

theorem Decimal.fraction_pos (d : Decimal) : 0 < d.fraction.2 := ten_pow_pos _

theorem Decimal.fraction_congr {d d' : Decimal} {n : Nat} (hd : d.digits = d'.digits * 10 ^ n)
    (he : d'.exponent = d.exponent + n) :
    d.fraction.1 * d'.fraction.2 = d'.fraction.1 * d.fraction.2 := by
  have hsum : n + d.exponent.toNat + (-d'.exponent).toNat =
      d'.exponent.toNat + (-d.exponent).toNat := by omega
  have hpow : 10 ^ n * 10 ^ d.exponent.toNat * 10 ^ (-d'.exponent).toNat =
      10 ^ d'.exponent.toNat * 10 ^ (-d.exponent).toNat := by rw [← pow_add, ← pow_add, ← pow_add, hsum]
  simp only [fraction, Nat.pow_eq, hd]
  calc d'.digits * 10 ^ n * one * 10 ^ d.exponent.toNat * 10 ^ (-d'.exponent).toNat
      = d'.digits * one * (10 ^ n * 10 ^ d.exponent.toNat * 10 ^ (-d'.exponent).toNat) := by ring
    _ = d'.digits * one * 10 ^ d'.exponent.toNat * 10 ^ (-d.exponent).toNat := by rw [hpow]; ring

def Decimal.IsFor (d : Decimal) (rank : Nat) : Prop :=
  readsBack rank d.fraction.1 d.fraction.2 = true

theorem Decimal.IsFor.congr {d d' : Decimal} {rank : Nat} (h : d.IsFor rank)
    (he : d.fraction.1 * d'.fraction.2 = d'.fraction.1 * d.fraction.2) : d'.IsFor rank :=
  readsBack_congr d.fraction_pos d'.fraction_pos he h

theorem Decimal.normalize_isFor {d : Decimal} {rank : Nat} (h : d.IsFor rank) (fuel : Nat) :
    (d.normalize fuel).IsFor rank := by
  induction fuel generalizing d with
  | zero => exact h
  | succ fuel ih =>
    rw [normalize]
    split
    · refine ih (h.congr (fraction_congr (n := 1) ?_ ?_))
      · simp only
        omega
      · simp
    · exact h

theorem tenfold_pred_le {num den fuel : Nat} (h : 0 < tenfold num den fuel) :
    den * 10 ^ (tenfold num den fuel - 1) ≤ num := by
  induction fuel generalizing den with
  | zero => simp [tenfold] at h
  | succ fuel ih =>
    rw [tenfold] at h ⊢
    split at h
    · omega
    · rename_i hlt
      rw [if_neg hlt, Nat.add_sub_cancel_left]
      rcases Nat.eq_zero_or_pos (tenfold num (den * 10) fuel) with hz | hpos
      · rw [hz]
        omega
      · have := ih hpos
        rwa [Nat.mul_assoc, ← pow_succ', Nat.sub_add_cancel hpos] at this

theorem lt_tenfold {num den fuel : Nat} (h : num < den * 10 ^ fuel) :
    num < den * 10 ^ tenfold num den fuel := by
  induction fuel generalizing den with
  | zero => simpa [tenfold] using h
  | succ fuel ih =>
    rw [tenfold]
    split
    · simpa
    · rw [Nat.add_comm, pow_succ', ← Nat.mul_assoc]
      exact ih (by rwa [pow_succ', ← Nat.mul_assoc] at h)

theorem units_pos {rank : Nat} (h : 0 < rank) : 0 < units rank :=
  Nat.lt_of_le_of_lt (Nat.zero_le _) (units_strictMono h)

theorem one_pos : 0 < one := by decide +kernel

theorem one_lt_ten_pow : one < 10 ^ 325 := by decide +kernel

theorem magnitude_le {rank : Nat} (h : 0 < rank) :
    one * 10 ^ (magnitude rank - 1).toNat ≤ units rank * 10 ^ (-(magnitude rank - 1)).toNat := by
  rw [magnitude]
  split
  · rename_i hone
    have hpos : 0 < tenfold (units rank) one 310 := by
      rw [tenfold, if_neg (by omega)]
      omega
    have hle := tenfold_pred_le hpos
    rw [show ((tenfold (units rank) one 310 : Int) - 1).toNat = tenfold (units rank) one 310 - 1 by
      omega, show (-((tenfold (units rank) one 310 : Int) - 1)).toNat = 0 by omega]
    omega
  · have hfuel : one < units rank * 10 ^ 325 :=
      one_lt_ten_pow.trans_le (Nat.le_mul_of_pos_left _ (units_pos h))
    have hlt := lt_tenfold hfuel
    simp only [show (1 - (tenfold one (units rank) 325 : Int) - 1).toNat = 0 by omega,
      show (-(1 - (tenfold one (units rank) 325 : Int) - 1)).toNat = tenfold one (units rank) 325 by
        omega]
    omega

theorem units_le_gap (rank : Nat) : units rank ≤ 2 ^ 53 * (units (rank + 1) - units rank) := by
  have hs := significand_lt rank
  have hb : 2 * binade = 2 ^ 53 := rfl
  rw [units_succ, Nat.add_sub_cancel_left, units_eq]
  exact Nat.mul_le_mul_right _ (by omega)

theorem units_succ_le_gap (rank : Nat) :
    units (rank + 1) ≤ 2 ^ 53 * (units (rank + 1) - units rank) := by
  have hs := significand_lt rank
  have hb : 2 * binade = 2 ^ 53 := rfl
  rw [units_succ, Nat.add_sub_cancel_left, units_eq, ← Nat.succ_mul]
  exact Nat.mul_le_mul_right _ (by omega)

theorem readsBack_below {rank n den s : Nat} (hpos : 0 < rank) (hs : 0 < s)
    (hle : n * den ≤ units rank * s)
    (hgap : 2 * (units rank * s) < 2 * (n * den) + (units rank - units (rank - 1)) * s) :
    readsBack rank (n * den) s = true := by
  have hbefore := Nat.mul_le_mul_right s (units_strictMono (show rank - 1 < rank by omega)).le
  have hafter := Nat.mul_lt_mul_of_pos_right (units_strictMono (Nat.lt_add_one rank)) hs
  rw [Nat.sub_mul] at hgap
  rw [readsBack_iff, lowerHalf, upperHalf, Nat.add_mul, Nat.add_mul]
  omega

theorem readsBack_above {rank n den s : Nat} (hpos : 0 < rank) (hs : 0 < s)
    (hle : units rank * s ≤ n * den)
    (hgap : 2 * (n * den) < 2 * (units rank * s) + (units (rank + 1) - units rank) * s) :
    readsBack rank (n * den) s = true := by
  have hbefore := Nat.mul_lt_mul_of_pos_right (units_strictMono (show rank - 1 < rank by omega)) hs
  have hafter := Nat.mul_le_mul_right s (units_strictMono (Nat.lt_add_one rank)).le
  rw [Nat.sub_mul] at hgap
  rw [readsBack_iff, lowerHalf, upperHalf, Nat.add_mul, Nat.add_mul]
  omega

theorem onGrid_isFor {rank : Nat} {x : Int} {d : Decimal} (h : onGrid rank x = some d) :
    d.IsFor rank := by
  simp only [onGrid] at h
  split at h
  · rename_i hfits
    rw [Bool.and_eq_true] at hfits
    exact Option.some.inj h ▸ hfits.1
  · split at h
    · rename_i hfits
      exact Option.some.inj h ▸ hfits
    · cases h

/-- Of the multiples around a value, one reads back if they are nearer to each other than the value
to its neighbours. -/
theorem readsBack_below_or_above {rank den s : Nat} (hpos : 0 < rank) (hs : 0 < s) (hden : 0 < den)
    (hlow : den < (units rank - units (rank - 1)) * s)
    (hhigh : den < (units (rank + 1) - units rank) * s) :
    2 * (units rank * s % den) < den ∧ readsBack rank (units rank * s / den * den) s = true ∨
      readsBack rank ((units rank * s / den + 1) * den) s = true := by
  have hdiv := Nat.div_add_mod' (units rank * s) den
  have hmod := Nat.mod_lt (units rank * s) hden
  rcases Nat.lt_or_ge (2 * (units rank * s % den)) den with hnear | hfar
  · exact .inl ⟨hnear, readsBack_below hpos hs (by omega) (by omega)⟩
  · have hnext : (units rank * s / den + 1) * den = units rank * s / den * den + den :=
      Nat.succ_mul _ _
    exact .inr (readsBack_above hpos hs (by omega) (by omega))

theorem onGrid_isSome {rank : Nat} {x : Int} (hpos : 0 < rank)
    (hlow : one * 10 ^ x.toNat < (units rank - units (rank - 1)) * 10 ^ (-x).toNat)
    (hhigh : one * 10 ^ x.toNat < (units (rank + 1) - units rank) * 10 ^ (-x).toNat) :
    (onGrid rank x).isSome = true := by
  have hs : 0 < 10 ^ (-x).toNat := ten_pow_pos _
  have hden : 0 < one * 10 ^ x.toNat := Nat.mul_pos one_pos (ten_pow_pos _)
  simp only [onGrid, Decimal.fraction, Nat.pow_eq, Nat.mul_assoc _ one]
  rcases readsBack_below_or_above hpos hs hden hlow hhigh with ⟨hnear, hbelow⟩ | habove
  · simp [hbelow, hnear]
  · simp only [habove]
    split <;> rfl

/-- Seventeen digits are enough: their grid is finer than the steps around the rank. -/
theorem onGrid_seventeen_isSome {rank : Nat} (h : 0 < rank) :
    (onGrid rank (magnitude rank - 17)).isSome = true := by
  have hm := magnitude_le h
  generalize magnitude rank = m at *
  have hexp : (m - 17).toNat + (-(m - 1)).toNat + 16 = (-(m - 17)).toNat + (m - 1).toNat := by omega
  have hpow : 10 ^ (m - 17).toNat * 10 ^ (-(m - 1)).toNat * 10 ^ 16 =
      10 ^ (-(m - 17)).toNat * 10 ^ (m - 1).toNat := by rw [← pow_add, ← pow_add, hexp, pow_add]
  have hfine (gap : Nat) (hgap : units rank ≤ 2 ^ 53 * gap) :
      one * 10 ^ (m - 17).toNat < gap * 10 ^ (-(m - 17)).toNat := by
    have hpos : 0 < gap := by
      have := units_pos h
      omega
    refine Nat.lt_of_mul_lt_mul_right (a := 10 ^ (-(m - 1)).toNat * 10 ^ 16) ?_
    calc one * 10 ^ (m - 17).toNat * (10 ^ (-(m - 1)).toNat * 10 ^ 16)
        = one * 10 ^ (m - 1).toNat * 10 ^ (-(m - 17)).toNat := by
          rw [Nat.mul_assoc, ← Nat.mul_assoc (10 ^ _), hpow]
          ring
      _ ≤ units rank * 10 ^ (-(m - 1)).toNat * 10 ^ (-(m - 17)).toNat := Nat.mul_le_mul_right _ hm
      _ ≤ 2 ^ 53 * gap * 10 ^ (-(m - 1)).toNat * 10 ^ (-(m - 17)).toNat := by gcongr
      _ < 10 ^ 16 * gap * 10 ^ (-(m - 1)).toNat * 10 ^ (-(m - 17)).toNat := by gcongr; norm_num
      _ = gap * 10 ^ (-(m - 17)).toNat * (10 ^ (-(m - 1)).toNat * 10 ^ 16) := by ring
  have hbefore := units_succ_le_gap (rank - 1)
  rw [Nat.sub_add_cancel h] at hbefore
  exact onGrid_isSome h (hfine _ hbefore) (hfine _ (units_le_gap rank))

theorem shortestFrom_isFor {rank fuel n : Nat} {top : Int}
    (h : ∃ j < fuel, (onGrid rank (top - (n + j : Nat))).isSome = true) :
    (shortestFrom rank top fuel n).IsFor rank := by
  induction fuel generalizing n with
  | zero =>
    obtain ⟨j, hj, -⟩ := h
    omega
  | succ fuel ih =>
    rw [shortestFrom]
    cases hd : onGrid rank (top - n) with
    | some d => exact onGrid_isFor hd
    | none =>
      obtain ⟨j, hj, hsome⟩ := h
      cases j with
      | zero => simp [hd] at hsome
      | succ j => exact ih ⟨j, by omega, by rwa [show n + 1 + j = n + (j + 1) by omega]⟩

theorem shortest_isFor {rank : Nat} (h : 0 < rank) : (shortest rank).IsFor rank :=
  shortestFrom_isFor ⟨16, by omega, onGrid_seventeen_isSome h⟩

theorem Decimal.IsFor.digits_ne_zero {d : Decimal} {rank : Nat} (h : 0 < rank)
    (hd : d.IsFor rank) : d.digits ≠ 0 := by
  intro hzero
  have hle := (readsBack_iff.1 hd).1
  have hpos : 0 < lowerHalf rank * d.fraction.2 :=
    Nat.mul_pos (Nat.add_pos_right _ (units_pos h)) d.fraction_pos
  simp [fraction, hzero] at hle hpos
  omega

end RealmDriver.Binary64
