import RealmDriver.Proofs.Number.Text
import RealmDriver.Quota

namespace RealmDriver.Quota

open Binary64

theorem read?_text (q : Quota) : read? q.text = some q := Binary64.read?_text q

/-- The whole number of 53 significant bits that is nearest to a whole number, a half going to the
even one. -/
def nearest53 (n : Nat) : Nat :=
  let e := n.log2 - 52
  roundHalfEven n (1 <<< e) <<< e

theorem nearest53_of_lt {n : Nat} (hn : n < 2 * binade) : nearest53 n = n := by
  have hlog : n.log2 - 52 = 0 := by
    rcases Nat.eq_zero_or_pos n with hz | hpos
    · simp [hz]
    · have := (Nat.log2_lt (k := 53) hpos.ne').2 hn
      omega
  have hround := roundHalfEven_mul n Nat.one_pos
  rw [Nat.mul_one] at hround
  simpa [nearest53, hlog] using hround

def byteShift : Nat := 1044

theorem one_eq : one = 2 ^ byteShift * gigabyte := by decide +kernel

theorem gigabyte_pos : 0 < gigabyte := by decide

theorem exists_rank (n : Nat) :
    ∃ r, units r = nearest53 n * 2 ^ byteShift ∧ readsBack r (n * one) gigabyte = true := by
  rcases Nat.lt_or_ge n (2 * binade) with hlt | hge
  · obtain ⟨r, hr⟩ := exists_units_eq hlt byteShift
    refine ⟨r, by rw [hr, nearest53_of_lt hlt], ?_⟩
    rw [one_eq, ← Nat.mul_assoc, ← hr]
    exact readsBack_units r gigabyte_pos
  · have hb : 2 * binade = 2 ^ 53 := rfl
    have hlog : 53 ≤ n.log2 := (Nat.le_log2 (by omega)).2 (hb ▸ hge)
    obtain ⟨htop, hbottom⟩ := binade_bounds Nat.one_pos (congrArg (·.log2 - 52) (Nat.div_one n).symm)
    have hd : 0 < 1 <<< (n.log2 - 52) := by
      rw [Nat.one_shiftLeft]
      exact Nat.two_pow_pos _
    have hfirst := hbottom.resolve_left (by omega)
    obtain ⟨hlow, hhigh, hodd⟩ := roundHalfEven_spec n hd
    have hk := roundHalfEven_le hd htop
    have hke := le_roundHalfEven hd hfirst
    simp only [nearest53]
    generalize n.log2 - 52 = e at *
    generalize roundHalfEven n (1 <<< e) = k at *
    rw [Nat.one_shiftLeft] at *
    have hone : gigabyte * 2 ^ (e + byteShift) = 2 ^ e * one := by
      rw [one_eq, pow_add]
      ring
    refine ⟨(e + byteShift) * binade + k, ?_, readsBack_split hk (.inr hke) (.inr ?_) ?_ ?_ ?_⟩
    · rw [units_split hk (.inr hke), Nat.shiftLeft_eq, pow_add, Nat.mul_assoc]
    all_goals rw [hone]
    · have := Nat.mul_le_mul_right one hfirst
      rwa [Nat.mul_assoc] at this
    · have := Nat.mul_le_mul_right one hlow
      linarith
    · have := Nat.mul_le_mul_right one hhigh
      linarith
    · intro hk
      have h₁ := Nat.mul_lt_mul_of_pos_right (hodd hk).1 Binary64.one_pos
      have h₂ := Nat.mul_lt_mul_of_pos_right (hodd hk).2 Binary64.one_pos
      constructor <;> linarith

theorem nearest53_le (n : Nat) : nearest53 n ≤ 2 * n := by
  rcases Nat.lt_or_ge n (2 * binade) with hlt | hge
  · rw [nearest53_of_lt hlt]
    omega
  · have hne : n ≠ 0 := by
      rintro rfl
      exact absurd hge (by decide)
    have hstep : 2 ^ (n.log2 - 52) ≤ n :=
      (Nat.pow_le_pow_right (by omega) (Nat.sub_le _ _)).trans (Nat.log2_self_le hne)
    have hspec := (roundHalfEven_spec n (Nat.two_pow_pos (n.log2 - 52))).1
    simp only [nearest53, Nat.shiftLeft_eq, Nat.one_mul]
    omega

theorem toBytes_ofRank {r m : Nat} (hr : units r = m * 2 ^ byteShift) (hfin : r ≤ infinityRank) :
    toBytes (ofRank false r) = min maxBytes m := by
  have hone : 2 * (m * 2 ^ byteShift) * gigabyte + one = (2 * m + 1) * one := by
    rw [one_eq]
    ring
  simp only [toBytes, ofRank, Nat.min_eq_right hfin, hr, hone]
  rw [Nat.mul_div_mul_right _ _ Binary64.one_pos, show (2 * m + 1) / 2 = m by omega]

theorem toBytes_mono {r r' : Nat} (h : r ≤ r') :
    toBytes (ofRank false r) ≤ toBytes (ofRank false r') := by
  have hunits : units (min infinityRank r) ≤ units (min infinityRank r') :=
    units_strictMono.monotone (by omega)
  simp only [toBytes, ofRank]
  refine min_le_min_left _ (Nat.div_le_div_right (Nat.add_le_add_right ?_ _))
  exact Nat.mul_le_mul_right _ (Nat.mul_le_mul_left _ hunits)

def stored (bytes : Int) : Nat := (ofBytes bytes).toBytes

theorem ofBytes_natCast (n : Nat) : ofBytes n = ofRank false (nearestRank (n * one) gigabyte) := by
  have hsign : decide ((n : Int) < 0) = false := by simp
  simp only [ofBytes, ofRatio, hsign, Int.natAbs_natCast]

theorem stored_of_nonpos {bytes : Int} (h : bytes ≤ 0) : stored bytes = 0 := by
  rcases Int.lt_or_eq_of_le h with hneg | rfl
  · simp [stored, ofBytes, ofRatio, ofRank, toBytes, hneg]
  · rfl

theorem lt_infinityRank {r m : Nat} (hm : m < 2 ^ 65) (hr : units r = m * 2 ^ byteShift) :
    r < infinityRank := by
  obtain ⟨e, he, hsplit⟩ : ∃ e, 65 + byteShift ≤ e ∧ infinityRank = e * binade + binade :=
    ⟨2046, by decide, by decide⟩
  refine units_strictMono.lt_iff_lt.1 ?_
  rw [hr, hsplit, units_split (by decide) (.inr le_rfl)]
  calc m * 2 ^ byteShift < 2 ^ 65 * 2 ^ byteShift :=
        Nat.mul_lt_mul_of_pos_right hm (Nat.two_pow_pos _)
    _ = 2 ^ (65 + byteShift) := (pow_add 2 65 byteShift).symm
    _ ≤ 2 ^ e := Nat.pow_le_pow_right (by omega) he
    _ ≤ binade * 2 ^ e := Nat.le_mul_of_pos_left _ (by decide)

theorem ofBytes_eq_ofRank {n : Nat} (hn : n < 2 ^ 64) :
    ∃ r < infinityRank, ofBytes n = ofRank false r ∧ units r = nearest53 n * 2 ^ byteShift := by
  obtain ⟨r, hunits, hreads⟩ := exists_rank n
  have hlt := lt_infinityRank (by have := nearest53_le n; omega) hunits
  refine ⟨r, hlt, ?_, hunits⟩
  rw [ofBytes_natCast, nearestRank_of_readsBack gigabyte_pos hreads, Nat.min_eq_right hlt.le]

/-- A quota keeps the nearest number of 53 bits, as far as a message can carry it. -/
theorem stored_natCast {n : Nat} (hn : n < 2 ^ 64) : stored n = min maxBytes (nearest53 n) := by
  obtain ⟨r, hlt, hrank, hunits⟩ := ofBytes_eq_ofRank hn
  rw [stored, hrank, toBytes_ofRank hunits hlt.le]

theorem stored_of_le {n : Nat} (hn : n ≤ 2 ^ 53) : stored n = n := by
  have hnearest : nearest53 n = n := by
    rcases Nat.lt_or_eq_of_le hn with hlt | rfl
    · exact nearest53_of_lt hlt
    · decide
  have hmax : maxBytes = 9223372036854775807 := rfl
  rw [stored_natCast (by omega), hnearest, hmax]
  omega

theorem stored_mono {a b : Int} (h : a ≤ b) : stored a ≤ stored b := by
  rcases le_or_gt a 0 with ha | ha
  · rw [stored_of_nonpos ha]
    exact Nat.zero_le _
  · lift a to Nat using ha.le
    lift b to Nat using by omega
    rw [stored, stored, ofBytes_natCast, ofBytes_natCast]
    refine toBytes_mono (nearestRank_mono gigabyte_pos gigabyte_pos ?_)
    exact Nat.mul_le_mul_right _ (Nat.mul_le_mul_right _ (by omega))

theorem stored_pos {bytes : Int} (h : 0 < bytes) : 0 < stored bytes := by
  have hone : stored 1 = 1 := stored_of_le (n := 1) (by omega)
  have := stored_mono (show 1 ≤ bytes by omega)
  omega

end RealmDriver.Quota
