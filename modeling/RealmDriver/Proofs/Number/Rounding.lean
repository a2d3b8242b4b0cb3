import Mathlib.Tactic.Ring
import Mathlib.Tactic.Linarith
import Mathlib.Order.Monotone.Basic
import RealmDriver.Number.Shortest

namespace RealmDriver.Binary64

theorem units_split {e k : Nat} (hk : k ≤ 2 * binade) (he : e = 0 ∨ binade ≤ k) :
    units (e * binade + k) = k * 2 ^ e := by
  have hb : binade = 4503599627370496 := rfl
  unfold units significand shift
  rw [Nat.shiftLeft_eq]
  rw [hb] at hk he ⊢
  by_cases hc : k = 2 * 4503599627370496
  · have hd : (e * 4503599627370496 + k) / 4503599627370496 - 1 = e + 1 := by omega
    have hs : e * 4503599627370496 + k - (e + 1) * 4503599627370496 = 4503599627370496 := by omega
    rw [hd, hs, hc, pow_succ]
    ring
  · have hd : (e * 4503599627370496 + k) / 4503599627370496 - 1 = e := by omega
    rw [hd, Nat.add_sub_cancel_left]

theorem significand_lt (r : Nat) : significand r < 2 * binade := by
  have hb : binade = 4503599627370496 := rfl
  unfold significand shift
  rw [hb]
  omega

theorem shift_eq_zero_or (r : Nat) : shift r = 0 ∨ binade ≤ significand r := by
  have hb : binade = 4503599627370496 := rfl
  unfold significand shift
  rw [hb]
  omega

theorem shift_mul_add_significand (r : Nat) : shift r * binade + significand r = r := by
  have hb : binade = 4503599627370496 := rfl
  unfold significand shift
  rw [hb]
  omega

theorem units_eq (r : Nat) : units r = significand r * 2 ^ shift r := Nat.shiftLeft_eq _ _

theorem units_succ (r : Nat) : units (r + 1) = units r + 2 ^ shift r := by
  have h := units_split (e := shift r) (k := significand r + 1) (significand_lt r)
    ((shift_eq_zero_or r).imp_right (by omega))
  rw [← Nat.add_assoc, shift_mul_add_significand] at h
  rw [h, units_eq]
  ring

theorem units_strictMono : StrictMono units :=
  strictMono_nat_of_lt_succ fun r ↦ by
    rw [units_succ]
    exact Nat.lt_add_of_pos_right (Nat.two_pow_pos _)

theorem upperHalf_le_lowerHalf {r r' : Nat} (h : r < r') : upperHalf r ≤ lowerHalf r' := by
  have h₁ := units_strictMono.monotone (show r ≤ r' - 1 by omega)
  have h₂ := units_strictMono.monotone (show r + 1 ≤ r' by omega)
  exact Nat.add_le_add h₁ h₂

theorem upperHalf_lt_lowerHalf {r r' : Nat} (h : r + 1 < r') : upperHalf r < lowerHalf r' := by
  have h₁ := units_strictMono (show r < r' - 1 by omega)
  have h₂ := units_strictMono (show r + 1 < r' by omega)
  exact Nat.add_lt_add h₁ h₂

theorem readsBack_iff {r num den : Nat} :
    readsBack r num den = true ↔
      lowerHalf r * den ≤ 2 * num ∧ 2 * num ≤ upperHalf r * den ∧
        (r % 2 = 1 → lowerHalf r * den < 2 * num ∧ 2 * num < upperHalf r * den) := by
  simp only [readsBack]
  split <;> simp only [Bool.and_eq_true, decide_eq_true_eq] <;> omega

theorem readsBack_mul {r num den c : Nat} (hc : 0 < c) :
    readsBack r (num * c) (den * c) = readsBack r num den := by
  rw [Bool.eq_iff_iff]
  simp only [readsBack_iff, ← Nat.mul_assoc, Nat.mul_le_mul_right_iff hc, Nat.mul_lt_mul_right hc]

theorem rank_le_of_le {r r' num num' den : Nat} (hden : 0 < den)
    (h : readsBack r num den = true) (h' : readsBack r' num' den = true)
    (hle : num ≤ num') : r ≤ r' := by
  obtain ⟨hl, -, hs⟩ := readsBack_iff.1 h
  obtain ⟨-, hu, hs'⟩ := readsBack_iff.1 h'
  by_contra hlt
  have hends : upperHalf r' * den ≤ lowerHalf r * den :=
    Nat.mul_le_mul_right _ (upperHalf_le_lowerHalf (by omega))
  by_cases hnext : r' + 1 < r
  · have hgap : upperHalf r' * den < lowerHalf r * den :=
      Nat.mul_lt_mul_of_pos_right (upperHalf_lt_lowerHalf hnext) hden
    omega
  · omega

theorem rank_le_of_readsBack {r num den r' num' den' : Nat} (hden : 0 < den) (hden' : 0 < den')
    (h : readsBack r num den = true) (h' : readsBack r' num' den' = true)
    (hle : num * den' ≤ num' * den) : r ≤ r' := by
  rw [← readsBack_mul hden'] at h
  rw [← readsBack_mul hden, Nat.mul_comm den'] at h'
  exact rank_le_of_le (Nat.mul_pos hden hden') h h' hle

theorem readsBack_unique {r r' num den : Nat} (hden : 0 < den)
    (h : readsBack r num den = true) (h' : readsBack r' num den = true) : r = r' :=
  Nat.le_antisymm (rank_le_of_le hden h h' le_rfl) (rank_le_of_le hden h' h le_rfl)

theorem readsBack_congr {r num den num' den' : Nat} (hden : 0 < den) (hden' : 0 < den')
    (he : num * den' = num' * den) (h : readsBack r num den = true) :
    readsBack r num' den' = true := by
  rwa [← readsBack_mul hden, ← he, Nat.mul_comm den' den, readsBack_mul hden']

/-- A quotient rounded to a whole number is at most a half away, and a half away only if the
whole number is even. -/
theorem roundHalfEven_spec (num : Nat) {den : Nat} (hden : 0 < den) :
    2 * (roundHalfEven num den * den) ≤ 2 * num + den ∧
      2 * num ≤ 2 * (roundHalfEven num den * den) + den ∧
      (roundHalfEven num den % 2 = 1 → 2 * (roundHalfEven num den * den) < 2 * num + den ∧
        2 * num < 2 * (roundHalfEven num den * den) + den) := by
  have hdiv := Nat.div_add_mod num den
  have hmod := Nat.mod_lt num hden
  have hq : num / den * den = den * (num / den) := Nat.mul_comm _ _
  simp only [roundHalfEven]
  split
  · rw [hq]
    omega
  · rw [show (num / den + 1) * den = den * (num / den) + den by ring]
    omega

theorem le_roundHalfEven {num den n : Nat} (hden : 0 < den) (h : n * den ≤ num) :
    n ≤ roundHalfEven num den := by
  have hn : n ≤ num / den := (Nat.le_div_iff_mul_le hden).2 h
  simp only [roundHalfEven]
  split <;> omega

theorem roundHalfEven_le {num den n : Nat} (hden : 0 < den) (h : num < n * den) :
    roundHalfEven num den ≤ n := by
  have hn : num / den < n := (Nat.div_lt_iff_lt_mul hden).2 h
  simp only [roundHalfEven]
  split <;> omega

theorem roundHalfEven_mul (n : Nat) {den : Nat} (hden : 0 < den) :
    roundHalfEven (n * den) den = n := by
  simp [roundHalfEven, Nat.mul_div_cancel _ hden, hden]

/-- The rank nearest to a quotient where there is no largest one. -/
def unboundedRank (num den : Nat) : Nat :=
  let e := (num / den).log2 - 52
  e * binade + roundHalfEven num (den <<< e)

theorem nearestRank_eq (num den : Nat) :
    nearestRank num den = min infinityRank (unboundedRank num den) := rfl

theorem binade_bounds {num den e : Nat} (hden : 0 < den) (he : e = (num / den).log2 - 52) :
    num < 2 * binade * (den <<< e) ∧ (e = 0 ∨ binade * (den <<< e) ≤ num) := by
  rw [Nat.shiftLeft_eq]
  have hb : binade = 2 ^ 52 := rfl
  constructor
  · have hlt : num / den < 2 ^ (52 + e + 1) :=
      Nat.lt_of_lt_of_le Nat.lt_log2_self (Nat.pow_le_pow_right (by omega) (by omega))
    rw [Nat.div_lt_iff_lt_mul hden] at hlt
    calc num < 2 ^ (52 + e + 1) * den := hlt
      _ = 2 * binade * (den * 2 ^ e) := by rw [hb]; ring
  · refine (Nat.eq_zero_or_pos e).imp_right fun hpos ↦ ?_
    have hne : num / den ≠ 0 := by
      intro h
      rw [h, Nat.log2_zero] at he
      omega
    have hle : 2 ^ (52 + e) ≤ num / den := by
      rw [show 52 + e = (num / den).log2 by omega]
      exact Nat.log2_self_le hne
    rw [Nat.le_div_iff_mul_le hden] at hle
    calc binade * (den * 2 ^ e) = 2 ^ (52 + e) * den := by rw [hb]; ring
      _ ≤ num := hle

theorem le_shift_split {e k : Nat} (he : e = 0 ∨ binade ≤ k) : e ≤ shift (e * binade + k) := by
  have hb : binade = 4503599627370496 := rfl
  unfold shift
  rw [hb] at he ⊢
  omega

theorem halves_split {e k : Nat} (hk : k ≤ 2 * binade) (he : e = 0 ∨ binade ≤ k) :
    2 * (k * 2 ^ e) + 2 ^ e ≤ upperHalf (e * binade + k) ∧
      (lowerHalf (e * binade + k) + 2 ^ e ≤ 2 * (k * 2 ^ e) ∨
        lowerHalf (e * binade + k) ≤ 2 * (k * 2 ^ e) ∧ (k = 0 ∨ 0 < e ∧ k = binade)) := by
  have hu := units_split hk he
  constructor
  · have hp : 2 ^ e ≤ 2 ^ shift (e * binade + k) :=
      Nat.pow_le_pow_right (by omega) (le_shift_split he)
    rw [upperHalf, units_succ, hu]
    omega
  · by_cases hfirst : k = 0 ∨ 0 < e ∧ k = binade
    · refine .inr ⟨?_, hfirst⟩
      have hm := units_strictMono.monotone (Nat.sub_le (e * binade + k) 1)
      rw [lowerHalf, hu]
      rw [hu] at hm
      omega
    · have hbefore := units_split (e := e) (k := k - 1) (by omega) (by omega)
      rw [← Nat.add_sub_assoc (by omega)] at hbefore
      have hstep : (k - 1) * 2 ^ e + 2 ^ e = k * 2 ^ e := by
        rw [← Nat.succ_mul, Nat.succ_eq_add_one, Nat.sub_add_cancel (by omega)]
      rw [lowerHalf, hu, hbefore]
      omega

/-- A quotient reads back as a rank if it is at most half a step of the rank's binade away from the
rank's value, and not in the binade below. -/
theorem readsBack_split {e k num den : Nat} (hk : k ≤ 2 * binade) (he : e = 0 ∨ binade ≤ k)
    (hbottom : e = 0 ∨ binade * (den * 2 ^ e) ≤ num)
    (hlow : 2 * (k * (den * 2 ^ e)) ≤ 2 * num + den * 2 ^ e)
    (hhigh : 2 * num ≤ 2 * (k * (den * 2 ^ e)) + den * 2 ^ e)
    (hodd : k % 2 = 1 → 2 * (k * (den * 2 ^ e)) < 2 * num + den * 2 ^ e ∧
      2 * num < 2 * (k * (den * 2 ^ e)) + den * 2 ^ e) :
    readsBack (e * binade + k) num den = true := by
  obtain ⟨hup, hdown⟩ := halves_split hk he
  have hparity : (e * binade + k) % 2 = k % 2 := by
    have hb : binade = 4503599627370496 := rfl
    rw [hb]
    omega
  have hup' := Nat.mul_le_mul_right den hup
  have hscale : (2 * (k * 2 ^ e) + 2 ^ e) * den = 2 * (k * (den * 2 ^ e)) + den * 2 ^ e := by ring
  have hscale' : 2 * (k * 2 ^ e) * den = 2 * (k * (den * 2 ^ e)) := by ring
  rw [readsBack_iff, hparity]
  rcases hdown with hdown | ⟨hdown, hfirst⟩
  · have hdown' := Nat.mul_le_mul_right den hdown
    have hsum : (lowerHalf (e * binade + k) + 2 ^ e) * den =
        lowerHalf (e * binade + k) * den + den * 2 ^ e := by ring
    omega
  · have hdown' := Nat.mul_le_mul_right den hdown
    rcases hfirst with hzero | ⟨hpos, hfirst⟩
    · subst hzero
      simp only [Nat.zero_mul, Nat.mul_zero] at *
      omega
    · -- below the first rank of a binade the steps are half as wide, but the quotient is not there
      have heven : k % 2 = 0 := hfirst ▸ rfl
      have hnum : k * (den * 2 ^ e) ≤ num := hfirst ▸ hbottom.resolve_left (by omega)
      omega

theorem unboundedRank_readsBack (num : Nat) {den : Nat} (hden : 0 < den) :
    readsBack (unboundedRank num den) num den = true := by
  simp only [unboundedRank]
  generalize he : (num / den).log2 - 52 = e
  obtain ⟨htop, hbottom⟩ := binade_bounds hden he.symm
  have hd : 0 < den <<< e := by
    rw [Nat.shiftLeft_eq]
    exact Nat.mul_pos hden (Nat.two_pow_pos e)
  obtain ⟨hlow, hhigh, hodd⟩ := roundHalfEven_spec num hd
  have hk := roundHalfEven_le hd htop
  have hke := hbottom.imp_right (le_roundHalfEven hd)
  rw [Nat.shiftLeft_eq] at *
  exact readsBack_split hk hke hbottom hlow hhigh hodd

theorem readsBack_units (r : Nat) {den : Nat} (hden : 0 < den) :
    readsBack r (units r * den) den = true := by
  have hbefore := units_strictMono.monotone (Nat.sub_le r 1)
  have hafter := Nat.mul_lt_mul_of_pos_right (units_strictMono (Nat.lt_add_one r)) hden
  have hbefore' := Nat.mul_le_mul_right den hbefore
  rw [readsBack_iff, lowerHalf, upperHalf, Nat.add_mul, Nat.add_mul]
  refine ⟨by omega, by omega, fun hodd ↦ ⟨?_, by omega⟩⟩
  have hstrict := Nat.mul_lt_mul_of_pos_right (units_strictMono (show r - 1 < r by omega)) hden
  omega

theorem nearestRank_of_readsBack {r num den : Nat} (hden : 0 < den)
    (h : readsBack r num den = true) : nearestRank num den = min infinityRank r := by
  rw [nearestRank_eq, readsBack_unique hden (unboundedRank_readsBack num hden) h]

theorem nearestRank_mono {num den num' den' : Nat} (hden : 0 < den) (hden' : 0 < den')
    (hle : num * den' ≤ num' * den) : nearestRank num den ≤ nearestRank num' den' := by
  have h := rank_le_of_readsBack hden hden' (unboundedRank_readsBack num hden)
    (unboundedRank_readsBack num' hden') hle
  rw [nearestRank_eq, nearestRank_eq]
  omega

theorem exists_units_eq {n : Nat} (hn : n < 2 * binade) (j : Nat) : ∃ r, units r = n * 2 ^ j := by
  induction j generalizing n with
  | zero => exact ⟨n, by simpa using units_split (e := 0) hn.le (.inl rfl)⟩
  | succ j ih =>
    rcases Nat.lt_or_ge n binade with hlt | hge
    · obtain ⟨r, hr⟩ := ih (show 2 * n < 2 * binade by omega)
      exact ⟨r, by rw [hr, pow_succ]; ring⟩
    · exact ⟨(j + 1) * binade + n, units_split hn.le (.inr hge)⟩

end RealmDriver.Binary64
