import RealmDriver.Proofs.Number.Text

namespace RealmDriver.Numeral

variable {limit n : Nat} {cs : List Char} {excess : IntegerFault}

theorem le_ofDigitChars (cs : List Char) (n : Nat) : n ≤ Nat.ofDigitChars 10 cs n := by
  rw [Nat.ofDigitChars_eq_ofDigitChars_zero]
  exact (Nat.le_mul_of_pos_left n (Nat.pow_pos (by omega))).trans (Nat.le_add_right _ _)

theorem readDigits_of_le (hdigit : ∀ c ∈ cs, isDigit c = true)
    (hle : Nat.ofDigitChars 10 cs n ≤ limit) :
    readDigits limit excess n cs = .ok (Nat.ofDigitChars 10 cs n) := by
  induction cs generalizing n with
  | nil => rfl
  | cons c cs ih =>
    rw [List.forall_mem_cons] at hdigit
    have hvalue : Nat.ofDigitChars 10 (c :: cs) n =
        Nat.ofDigitChars 10 cs (10 * n + digitValue c) := Nat.ofDigitChars_cons
    rw [hvalue] at hle ⊢
    have hgrows := le_ofDigitChars cs (10 * n + digitValue c)
    rw [readDigits, hdigit.1, Bool.not_true, if_neg Bool.false_ne_true, if_neg (by omega),
      ih hdigit.2 hle]

theorem readNumeral_toDigits (hn : n ≤ limit) :
    readNumeral limit excess (Nat.toDigits 10 n) = .ok n := by
  have hvalue := value_toDigits n
  rw [value_eq] at hvalue
  rw [readNumeral, List.isEmpty_eq_false_iff.2 Nat.toDigits_ne_nil, if_neg Bool.false_ne_true,
    readDigits_of_le (fun c ↦ isDigit_of_mem_toDigits) (by rwa [hvalue]), hvalue]

theorem toList_toString_neg {i : Int} (hi : i < 0) :
    (toString i).toList = '-' :: Nat.toDigits 10 i.natAbs := by
  obtain ⟨n, rfl⟩ := Int.eq_negSucc_of_lt_zero hi
  change ("-" ++ String.ofList (Nat.toDigits 10 (n + 1))).toList = _
  simp only [String.toList_append, String.toList_ofList]
  rfl

theorem toList_toString_nonneg {i : Int} (hi : 0 ≤ i) :
    (toString i).toList = Nat.toDigits 10 i.natAbs := by
  obtain ⟨n, rfl⟩ := Int.eq_ofNat_of_zero_le hi
  change (String.ofList (Nat.toDigits 10 n)).toList = _
  exact String.toList_ofList

theorem readInt64_toString (i : Int64) : readInt64 (toString i.toInt) = .ok i.toInt := by
  have hle : i.toInt < 2 ^ 63 := i.toInt_lt
  have hge : -2 ^ 63 ≤ i.toInt := i.le_toInt
  have hbound : int64Bound = 2 ^ 63 := by decide
  rw [readInt64]
  rcases lt_or_ge i.toInt 0 with hi | hi
  · rw [toList_toString_neg hi]
    change Except.map _ (readNumeral int64Bound .tooSmall (Nat.toDigits 10 i.toInt.natAbs) >>= _) = _
    rw [readNumeral_toDigits (by omega)]
    exact congrArg Except.ok (show -(i.toInt.natAbs : Int) = i.toInt by omega)
  · obtain ⟨c, cs, hcs⟩ := List.exists_cons_of_ne_nil
      (Nat.toDigits_ne_nil (n := i.toInt.natAbs) (b := 10))
    have hc : isDigit c = true :=
      isDigit_of_mem_toDigits (n := i.toInt.natAbs) (by simp [hcs])
    have hread : readNumeral (int64Bound - 1) .tooLarge (Nat.toDigits 10 i.toInt.natAbs) =
        .ok i.toInt.natAbs := readNumeral_toDigits (by omega)
    rw [toList_toString_nonneg hi, hcs]
    rw [hcs] at hread
    split
    · rename_i hnil
      cases hnil
    · rename_i hsign
      cases hsign
      exact absurd hc (by decide)
    · rename_i hsign
      cases hsign
      exact absurd hc (by decide)
    · simp only [hread]
      exact congrArg Except.ok (show (i.toInt.natAbs : Int) = i.toInt by omega)

end RealmDriver.Numeral
