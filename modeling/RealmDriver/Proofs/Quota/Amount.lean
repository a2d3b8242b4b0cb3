import RealmDriver.Proofs.Enlargement.Remote
import RealmDriver.Proofs.Quota

namespace RealmDriver

namespace Quota

open Binary64 (infinityRank place zero infinity)

def IsAmount (q : Quota) : Prop := zero.le q = true ∧ q.lt (infinity false) = true

theorem isAmount_iff {q : Quota} :
    q.IsAmount ↔ ∃ r : Nat, q.place = some (r : Int) ∧ r < infinityRank := by
  have hzero : zero.place = some 0 := rfl
  have hinfinity : (infinity false).place = some (infinityRank : Int) := rfl
  rw [IsAmount, Binary64.le_iff, Binary64.lt_iff, hzero, hinfinity]
  constructor
  · rintro ⟨⟨_, b, ⟨⟩, hb, hnonneg⟩, c, _, hc, ⟨⟩, hlt⟩
    rw [hb] at hc
    cases hc
    lift b to Nat using hnonneg
    exact ⟨b, hb, Int.ofNat_lt.1 hlt⟩
  · rintro ⟨r, hr, hlt⟩
    exact ⟨⟨0, r, rfl, hr, Int.natCast_nonneg r⟩, r, _, hr, rfl, Int.ofNat_lt.2 hlt⟩

theorem ofRank_place {r : Nat} (hr : r ≤ infinityRank) :
    (Binary64.ofRank false r).place = some (r : Int) := by
  simp [Binary64.ofRank, place, hr]

theorem ofBytes_isAmount {n : Nat} (hn : n < 2 ^ 64) : (ofBytes n).IsAmount := by
  obtain ⟨r, hlt, hrank, -⟩ := ofBytes_eq_ofRank hn
  rw [hrank, isAmount_iff]
  exact ⟨r, ofRank_place hlt.le, hlt⟩

theorem ofBytes_le {a b : Nat} (h : a ≤ b) : (ofBytes a).le (ofBytes b) = true := by
  have hranks := Binary64.nearestRank_mono gigabyte_pos gigabyte_pos
    (Nat.mul_le_mul_right gigabyte (Nat.mul_le_mul_right Binary64.one h))
  rw [ofBytes_natCast, ofBytes_natCast, Binary64.le_iff]
  refine ⟨_, _, rfl, rfl, Int.ofNat_le.2 ?_⟩
  exact min_le_min_left _ hranks

theorem ofBytes_zero : ofBytes 0 = zero := rfl

theorem IsAmount.nonneg {q : Quota} (h : q.IsAmount) : q.lt zero = false := by
  obtain ⟨r, hr, -⟩ := isAmount_iff.1 h
  have hzero : zero.place = some 0 := rfl
  rw [Bool.eq_false_iff, Ne, Binary64.lt_iff, hr, hzero]
  rintro ⟨_, _, ⟨⟩, ⟨⟩, hneg⟩
  omega

end Quota

namespace Enlargement

theorem ordered_ofBytes {n : Bound → Nat} (h : n .hard = 0 ∨ n .soft ≤ n .hard) :
    Ordered fun b ↦ Quota.ofBytes (n b) := by
  rcases h with hzero | hle
  · left
    change (Quota.ofBytes (n .hard)).place = some 0
    rw [hzero]
    rfl
  · exact .inr (Quota.ofBytes_le hle)

end Enlargement

end RealmDriver
