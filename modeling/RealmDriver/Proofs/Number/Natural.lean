import RealmDriver.Proofs.Number.Integer

namespace RealmDriver.Numeral

variable {limit n m : Nat} {cs : List Char} {excess : IntegerFault}

theorem of_readDigits_ok (hn : n ≤ limit) (h : readDigits limit excess n cs = .ok m) :
    (∀ c ∈ cs, isDigit c = true) ∧ Nat.ofDigitChars 10 cs n = m ∧ m ≤ limit := by
  induction cs generalizing n with
  | nil =>
    cases h
    exact ⟨fun c hc ↦ (nomatch hc), rfl, hn⟩
  | cons c cs ih =>
    rw [readDigits] at h
    split_ifs at h with hdigit hlimit
    obtain ⟨hdigits, hvalue, hle⟩ := ih (Nat.not_lt.1 hlimit) h
    rw [Bool.not_eq_true, Bool.not_eq_false'] at hdigit
    exact ⟨List.forall_mem_cons.2 ⟨hdigit, hdigits⟩, hvalue, hle⟩

theorem readNumeral_ok_iff : readNumeral limit excess cs = .ok n ↔
    cs ≠ [] ∧ (∀ c ∈ cs, isDigit c = true) ∧ value cs = n ∧ n ≤ limit := by
  rw [readNumeral]
  split_ifs with hempty
  · simp [List.isEmpty_iff.1 hempty]
  · rw [List.isEmpty_iff] at hempty
    constructor
    · intro h
      exact ⟨hempty, of_readDigits_ok (Nat.zero_le limit) h⟩
    · rintro ⟨-, hdigits, rfl, hle⟩
      exact readDigits_of_le hdigits hle

/-- Digits, one at least, and perhaps a plus sign before them. -/
def Spells (s : String) (digits : List Char) : Prop :=
  (s.toList = digits ∨ s.toList = '+' :: digits) ∧ digits ≠ [] ∧ ∀ c ∈ digits, isDigit c = true

theorem readNat_ok_iff {s : String} : readNat limit s = .ok n ↔
    ∃ digits, Spells s digits ∧ value digits = n ∧ n ≤ limit := by
  rw [readNat]
  split
  · rename_i hnil
    refine iff_of_false (fun h ↦ nomatch h) ?_
    rintro ⟨digits, ⟨hs, hne, -⟩, -⟩
    rw [hnil] at hs
    rcases hs with rfl | hs
    · exact hne rfl
    · cases hs
  · rename_i cs hplus
    rw [readNumeral_ok_iff]
    constructor
    · rintro ⟨hne, hdigits, hvalue⟩
      exact ⟨cs, ⟨.inr hplus, hne, hdigits⟩, hvalue⟩
    · rintro ⟨digits, ⟨hs, hne, hdigits⟩, hvalue⟩
      rcases hs with hs | hs
      · rw [hplus] at hs
        exact absurd (hdigits '+' (hs ▸ List.mem_cons_self)) (by decide)
      · cases hplus.symm.trans hs
        exact ⟨hne, hdigits, hvalue⟩
  · rename_i hplain
    rw [readNumeral_ok_iff]
    constructor
    · rintro ⟨hne, hdigits, hvalue⟩
      exact ⟨s.toList, ⟨.inl rfl, hne, hdigits⟩, hvalue⟩
    · rintro ⟨digits, ⟨hs, hne, hdigits⟩, hvalue⟩
      rcases hs with rfl | hs
      · exact ⟨hne, hdigits, hvalue⟩
      · exact absurd hs (hplain digits)

section Signed

variable {cs : List Char} {i : Int} {limit : Nat} {excess : IntegerFault}

def IsNumeral (cs : List Char) : Prop := cs ≠ [] ∧ ∀ c ∈ cs, isDigit c = true

inductive Denotes : List Char → Int → Prop
  | unsigned {digits : List Char} (h : IsNumeral digits) : Denotes digits (value digits)
  | positive {digits : List Char} (h : IsNumeral digits) : Denotes ('+' :: digits) (value digits)
  | negative {digits : List Char} (h : IsNumeral digits) : Denotes ('-' :: digits) (-(value digits))

def IsInt64 (cs : List Char) (i : Int) : Prop := Denotes cs i ∧ -2 ^ 63 ≤ i ∧ i < 2 ^ 63

theorem map_readNumeral_ok_iff {sign : Int → Int} :
    (readNumeral limit excess cs >>= fun n ↦ pure (n : Int)).map sign = .ok i ↔
      IsNumeral cs ∧ sign (value cs) = i ∧ value cs ≤ limit := by
  have hread := @readNumeral_ok_iff limit
  cases h : readNumeral limit excess cs with
  | error e =>
    constructor
    · intro h
      cases h
    · rintro ⟨⟨hne, hdigits⟩, -, hle⟩
      cases h.symm.trans (hread.2 ⟨hne, hdigits, rfl, hle⟩)
  | ok n =>
    obtain ⟨hne, hdigits, rfl, hle⟩ := hread.1 h
    change Except.ok (sign (value cs)) = .ok i ↔ _
    rw [Except.ok.injEq]
    exact ⟨fun hi ↦ ⟨⟨hne, hdigits⟩, hi, hle⟩, fun h ↦ h.2.1⟩

theorem IsNumeral.head_ne {c : Char} (h : IsNumeral (c :: cs)) : c ≠ '+' ∧ c ≠ '-' := by
  have hdigit := h.2 c List.mem_cons_self
  constructor
  · rintro rfl
    exact absurd hdigit (by decide)
  · rintro rfl
    exact absurd hdigit (by decide)

theorem readInt64_ok_iff {s : String} : readInt64 s = .ok i ↔ IsInt64 s.toList i := by
  have hbound : int64Bound = 2 ^ 63 := by decide
  rw [readInt64, IsInt64]
  split
  · rename_i hnil
    constructor
    · intro h
      cases h
    · rintro ⟨hdenotes, -⟩
      rw [hnil] at hdenotes
      cases hdenotes with
      | unsigned h => exact absurd rfl h.1
  · rename_i digits hminus
    rw [hminus, map_readNumeral_ok_iff]
    constructor
    · rintro ⟨hnumeral, rfl, hle⟩
      exact ⟨.negative hnumeral, by omega, by omega⟩
    · rintro ⟨hdenotes, hlow, hhigh⟩
      cases hdenotes with
      | unsigned h => exact absurd rfl h.head_ne.2
      | negative h => exact ⟨h, rfl, by omega⟩
  · rename_i digits hplus
    rw [hplus, map_readNumeral_ok_iff]
    constructor
    · rintro ⟨hnumeral, rfl, hle⟩
      exact ⟨.positive hnumeral, by omega, by omega⟩
    · rintro ⟨hdenotes, hlow, hhigh⟩
      cases hdenotes with
      | unsigned h => exact absurd rfl h.head_ne.1
      | positive h => exact ⟨h, rfl, by omega⟩
  · rename_i hminus hplus
    rw [map_readNumeral_ok_iff]
    constructor
    · rintro ⟨hnumeral, rfl, hle⟩
      exact ⟨.unsigned hnumeral, by omega, by omega⟩
    · rintro ⟨hdenotes, hlow, hhigh⟩
      generalize s.toList = cs at *
      cases hdenotes with
      | unsigned h => exact ⟨h, rfl, by omega⟩
      | positive h => exact absurd rfl (hplus _)
      | negative h => exact absurd rfl (hminus _)

end Signed

section Canonical

variable {c : Char}

theorem toNat_of_isDigit (h : isDigit c = true) : 48 ≤ c.toNat ∧ c.toNat ≤ 57 :=
  ⟨of_decide_eq_true (Bool.and_eq_true_iff.1 h).1, of_decide_eq_true (Bool.and_eq_true_iff.1 h).2⟩

theorem digitValue_lt (h : isDigit c = true) : digitValue c < 10 := by
  have hbounds := toNat_of_isDigit h
  have hzero : '0'.toNat = 48 := rfl
  rw [digitValue]
  omega

theorem digitChar_digitValue (h : isDigit c = true) : (digitValue c).digitChar = c := by
  have hbounds := toNat_of_isDigit h
  have hzero : '0'.toNat = 48 := rfl
  rw [← Char.toNat_inj, Nat.toNat_digitChar_of_lt_ten (digitValue_lt h), digitValue]
  omega

theorem toDigits_digitValue (h : isDigit c = true) : Nat.toDigits 10 (digitValue c) = [c] := by
  rw [Nat.toDigits_of_lt_base (digitValue_lt h), digitChar_digitValue h]

theorem toDigits_inj : Nat.toDigits 10 n = Nat.toDigits 10 m ↔ n = m := by
  constructor
  · intro h
    rw [← value_toDigits n, h, value_toDigits]
  · rintro rfl
    rfl

theorem toDigits_append (hn : 0 < n) (hdigits : ∀ c ∈ cs, isDigit c = true) :
    Nat.toDigits 10 n ++ cs = Nat.toDigits 10 (Nat.ofDigitChars 10 cs n) := by
  induction cs generalizing n with
  | nil => exact List.append_nil _
  | cons c cs ih =>
    rw [List.forall_mem_cons] at hdigits
    have hvalue : Nat.ofDigitChars 10 (c :: cs) n =
        Nat.ofDigitChars 10 cs (10 * n + digitValue c) := Nat.ofDigitChars_cons
    have hnext := Nat.toDigits_append_toDigits (by omega) hn (digitValue_lt hdigits.1)
    rw [toDigits_digitValue hdigits.1] at hnext
    rw [hvalue, ← ih (by omega) hdigits.2, ← hnext, List.append_assoc, List.singleton_append]

theorem head?_toDigits (hn : 0 < n) : (Nat.toDigits 10 n).head? ≠ some '0' := by
  induction n using Nat.strongRecOn with
  | _ n ih =>
    rw [Nat.toDigits_eq_if (by omega)]
    split_ifs with hlt
    · rw [List.head?_cons, Ne, Option.some_inj, Nat.digitChar_eq_zero]
      omega
    · have hfront := ih (n / 10) (by omega) (by omega)
      obtain ⟨d, ds, hds⟩ := List.exists_cons_of_ne_nil (Nat.toDigits_ne_nil (n := n / 10) (b := 10))
      rw [hds] at hfront ⊢
      exact hfront

theorem exists_eq_toDigits_iff : (∃ n, 0 < n ∧ cs = Nat.toDigits 10 n) ↔
    (∀ c ∈ cs, isDigit c = true) ∧ cs ≠ [] ∧ cs.head? ≠ some '0' := by
  constructor
  · rintro ⟨n, hn, rfl⟩
    exact ⟨fun c ↦ isDigit_of_mem_toDigits, Nat.toDigits_ne_nil, head?_toDigits hn⟩
  · rintro ⟨hdigits, hne, hzero⟩
    obtain ⟨c, cs, rfl⟩ := List.exists_cons_of_ne_nil hne
    rw [List.forall_mem_cons] at hdigits
    have hpos : 0 < digitValue c := by
      refine Nat.pos_of_ne_zero fun hnone ↦ hzero ?_
      rw [List.head?_cons, ← digitChar_digitValue hdigits.1, hnone]
      rfl
    refine ⟨Nat.ofDigitChars 10 cs (digitValue c), hpos.trans_le (le_ofDigitChars cs _), ?_⟩
    rw [← toDigits_append hpos hdigits.2, toDigits_digitValue hdigits.1, List.singleton_append]

end Canonical

end RealmDriver.Numeral
