import RealmDriver.Proofs.Number.Natural
import RealmDriver.Proofs.Validation

namespace RealmDriver.Validation

section Languages

variable {value : String} {least greatest : Nat}

/-- Holds a character other than white space. -/
def IsFilled (value : String) : Prop := ∃ c ∈ value.toList, Text.isBlank c = false

def IsNumber (least greatest : Nat) (value : String) : Prop :=
  ∃ digits, Numeral.Spells value digits ∧
    least ≤ Numeral.value digits ∧ Numeral.value digits ≤ greatest

/-- A number, written without a sign and without zeros in front, and its unit in either case. -/
inductive IsStripeUnit : String → Prop
  | kilobytes {n : Nat} {unit : Char} (hunit : unit = 'K' ∨ unit = 'k') (halign : 16 ∣ n)
      (hleast : 16 ≤ n) (hgreatest : n ≤ 4096) :
      IsStripeUnit (String.ofList (Nat.toDigits 10 n ++ [unit]))
  | megabytes {n : Nat} {unit : Char} (hunit : unit = 'M' ∨ unit = 'm') (hleast : 1 ≤ n)
      (hgreatest : n ≤ 4) : IsStripeUnit (String.ofList (Nat.toDigits 10 n ++ [unit]))

def Language : Attribute → String → Prop
  | .bladeset | .recoveryPriority | .efsa | .volservice | .user | .group => IsFilled
  | .layout => (· ∈ layouts)
  | .maxWidth | .rgDepth => IsNumber 1 (UInt64.size - 1)
  | .stripeUnit => IsStripeUnit
  | .rgWidth => IsNumber 3 20
  | .userPermission | .groupPermission | .otherPermission => (· ∈ permissions)
  | .encryption => (· ∈ encryptionModes)
  | .description => fun _ ↦ True

theorem checkFilled_ok_iff : checkFilled value = .ok () ↔ IsFilled value := by
  rw [checkFilled, Text.isBlankText]
  split_ifs with hblank
  · refine iff_of_false (fun h ↦ nomatch h) ?_
    rintro ⟨c, hc, hfilled⟩
    exact Bool.eq_false_iff.1 hfilled (List.all_eq_true.1 hblank c hc)
  · rw [Bool.not_eq_true, List.all_eq_false] at hblank
    refine iff_of_true rfl ?_
    obtain ⟨c, hc, hfilled⟩ := hblank
    exact ⟨c, hc, Bool.eq_false_iff.2 hfilled⟩

theorem checkOneOf_ok_iff {allowed : List String} :
    checkOneOf allowed value = .ok () ↔ value ∈ allowed := by
  rw [checkOneOf]
  split_ifs with hmem
  · exact iff_of_true rfl hmem
  · exact iff_of_false (fun h ↦ nomatch h) hmem

theorem readNumber_ok_iff {n : Nat} : readNumber value = .ok n ↔
    ∃ digits, Numeral.Spells value digits ∧ Numeral.value digits = n ∧ n ≤ UInt64.size - 1 := by
  rw [readNumber, Except.mapError_ok_iff, Numeral.readNat_ok_iff]

theorem checkPositive_ok_iff : checkPositive value = .ok () ↔ IsNumber 1 (UInt64.size - 1) value := by
  simp only [checkPositive, Except.bind_ok_iff, readNumber_ok_iff, Except.ite_throw_ok_iff]
  constructor
  · rintro ⟨n, ⟨digits, hspells, rfl, hle⟩, hpos⟩
    exact ⟨digits, hspells, Nat.one_le_iff_ne_zero.2 hpos, hle⟩
  · rintro ⟨digits, hspells, hpos, hle⟩
    exact ⟨_, ⟨digits, hspells, rfl, hle⟩, Nat.one_le_iff_ne_zero.1 hpos⟩

theorem checkBetween_ok_iff (h : greatest ≤ UInt64.size - 1) :
    checkBetween least greatest value = .ok () ↔ IsNumber least greatest value := by
  simp only [checkBetween, Except.bind_ok_iff, readNumber_ok_iff, Except.ite_throw_ok_iff, not_or,
    Nat.not_lt]
  constructor
  · rintro ⟨n, ⟨digits, hspells, rfl, -⟩, hbetween⟩
    exact ⟨digits, hspells, hbetween⟩
  · rintro ⟨digits, hspells, hbetween⟩
    exact ⟨_, ⟨digits, hspells, rfl, hbetween.2.trans h⟩, hbetween⟩

end Languages

section StripeUnits

variable {value : String} {digits : List Char} {c u : Char}

theorem toUpper_eq_iff (hu : u.isUpper = true) : c.toUpper = u ↔ c = u ∨ c = u.toLower := by
  unfold Char.isUpper at hu
  unfold Char.toUpper Char.toLower
  rw [decide_eq_true_eq] at hu
  rw [dif_pos hu]
  rw [ge_iff_le, UInt32.le_iff_toNat_le, UInt32.le_iff_toNat_le] at hu
  have hdown : ('A'.val - 'a'.val).toNat = 2 ^ 32 - 32 := rfl
  have hup : ('a'.val - 'A'.val).toNat = 32 := rfl
  have hA : 'A'.val.toNat = 65 := rfl
  have hZ : 'Z'.val.toNat = 90 := rfl
  have ha : 'a'.val.toNat = 97 := rfl
  have hz : 'z'.val.toNat = 122 := rfl
  split
  · rename_i hlower
    simp only [Char.ext_iff, ← UInt32.toNat_inj, UInt32.toNat_add]
    rw [UInt32.le_iff_toNat_le, UInt32.le_iff_toNat_le] at hlower
    omega
  · rename_i hlower
    simp only [Char.ext_iff, ← UInt32.toNat_inj, UInt32.toNat_add]
    rw [UInt32.le_iff_toNat_le, UInt32.le_iff_toNat_le] at hlower
    omega

theorem head?_any_iff (cs : List Char) :
    cs.head?.any (· ≠ '0') = true ↔ cs ≠ [] ∧ cs.head? ≠ some '0' := by
  cases cs <;> simp

theorem stripeUnit?_eq_some_iff : stripeUnit? value = some (digits, u) ↔
    (∃ n, 0 < n ∧ digits = Nat.toDigits 10 n) ∧
      ∃ unit, value.toList = digits ++ [unit] ∧ unit.toUpper = u ∧ (u = 'K' ∨ u = 'M') := by
  rw [Numeral.exists_eq_toDigits_iff, stripeUnit?]
  split
  · rename_i unit ds hvalue
    rw [List.reverse_eq_iff, List.reverse_cons] at hvalue
    rw [hvalue, ← head?_any_iff, ← List.all_eq_true]
    constructor
    · intro h
      dsimp only at h
      split_ifs at h with hunit
      cases h
      exact ⟨hunit.2, unit, rfl, rfl, by simpa using hunit.1⟩
    · rintro ⟨hdigits, unit', hunit', rfl, hu⟩
      obtain ⟨rfl, rfl⟩ := List.append_singleton_inj.1 hunit'
      exact if_pos ⟨by simpa using hu, hdigits⟩
  · rename_i hnil
    rw [List.reverse_eq_nil_iff] at hnil
    simp [hnil]

theorem stripeUnit?_toDigits_iff {n : Nat} : stripeUnit? value = some (Nat.toDigits 10 n, u) ↔
    0 < n ∧ ∃ unit, value.toList = Nat.toDigits 10 n ++ [unit] ∧ unit.toUpper = u ∧
      (u = 'K' ∨ u = 'M') := by
  rw [stripeUnit?_eq_some_iff]
  simp only [Numeral.toDigits_inj, exists_eq_right']

theorem readNumber_toDigits_iff {n k : Nat} :
    readNumber (String.ofList (Nat.toDigits 10 n)) = .ok k ↔ n = k ∧ k ≤ UInt64.size - 1 := by
  rw [readNumber_ok_iff]
  have hdigits : ∀ c ∈ Nat.toDigits 10 n, Numeral.isDigit c = true :=
    fun c ↦ Numeral.isDigit_of_mem_toDigits
  constructor
  · rintro ⟨digits, ⟨hs, hne, hother⟩, rfl, hle⟩
    rw [String.toList_ofList] at hs
    rcases hs with hs | hs
    · rw [← hs, Numeral.value_toDigits] at hle ⊢
      exact ⟨rfl, hle⟩
    · exact absurd (hdigits '+' (hs ▸ List.mem_cons_self)) (by decide)
  · rintro ⟨rfl, hle⟩
    exact ⟨Nat.toDigits 10 n, ⟨.inl String.toList_ofList, Nat.toDigits_ne_nil, hdigits⟩,
      Numeral.value_toDigits n, hle⟩

def kilobytes (n : Nat) (u : Char) : Nat := if u = 'M' then n * 1024 else n

theorem checkStripeUnit_ok_iff_exists : checkStripeUnit value = .ok () ↔
    ∃ n u, stripeUnit? value = some (Nat.toDigits 10 n, u) ∧ n ≤ UInt64.size - 1 ∧
      kilobytes n u ≤ StripeUnit.greatest ∧ kilobytes n u % StripeUnit.alignment = 0 := by
  rw [checkStripeUnit]
  cases hunit : stripeUnit? value with
  | none =>
    refine iff_of_false (fun h ↦ nomatch h) ?_
    rintro ⟨n, u, h, -⟩
    cases h
  | some unit =>
    obtain ⟨digits, u⟩ := unit
    obtain ⟨⟨n, -, rfl⟩, -⟩ := stripeUnit?_eq_some_iff.1 hunit
    simp only [Except.bind_ok_iff, readNumber_toDigits_iff, Except.ite_throw_ok_iff, not_or, Nat.not_lt,
      not_not]
    constructor
    · rintro ⟨k, ⟨rfl, hle⟩, hfits⟩
      exact ⟨n, u, rfl, hle, hfits⟩
    · rintro ⟨k, u', hsome, hle, hfits⟩
      obtain ⟨hdigits, rfl⟩ := Prod.mk.inj (Option.some.inj hsome)
      obtain rfl := Numeral.toDigits_inj.1 hdigits
      exact ⟨n, ⟨rfl, hle⟩, hfits⟩

theorem checkStripeUnit_ok_iff : checkStripeUnit value = .ok () ↔ IsStripeUnit value := by
  have hgreatest : StripeUnit.greatest = 4096 := rfl
  have halignment : StripeUnit.alignment = 16 := rfl
  have hsize : UInt64.size - 1 = 18446744073709551615 := rfl
  have hkilo (n : Nat) : kilobytes n 'K' = n := if_neg (by decide)
  have hmega (n : Nat) : kilobytes n 'M' = n * 1024 := if_pos rfl
  simp only [checkStripeUnit_ok_iff_exists, stripeUnit?_toDigits_iff, hgreatest, halignment, hsize]
  constructor
  · rintro ⟨n, u, ⟨hn, unit, hvalue, hunit, hu⟩, -, hle, halign⟩
    rw [← String.ofList_toList (s := value), hvalue]
    rcases hu with rfl | rfl
    · rw [hkilo] at hle halign
      exact .kilobytes ((toUpper_eq_iff rfl).1 hunit) (Nat.dvd_of_mod_eq_zero halign) (by omega) hle
    · rw [hmega] at hle
      exact .megabytes ((toUpper_eq_iff rfl).1 hunit) hn (by omega)
  · rintro (⟨hunit, halign, hleast, hgreatest⟩ | ⟨hunit, hleast, hgreatest⟩)
    · refine ⟨_, 'K', ⟨by omega, _, String.toList_ofList, (toUpper_eq_iff rfl).2 hunit, .inl rfl⟩,
        by omega, ?_⟩
      rw [hkilo]
      exact ⟨hgreatest, Nat.mod_eq_zero_of_dvd halign⟩
    · refine ⟨_, 'M', ⟨by omega, _, String.toList_ofList, (toUpper_eq_iff rfl).2 hunit, .inr rfl⟩,
        by omega, ?_⟩
      rw [hmega]
      omega

end StripeUnits

theorem check_ok_iff (a : Attribute) (value : String) : check a value = .ok () ↔ Language a value := by
  cases a with
  | bladeset | recoveryPriority | efsa | volservice | user | group => exact checkFilled_ok_iff
  | layout | userPermission | groupPermission | otherPermission | encryption => exact checkOneOf_ok_iff
  | maxWidth | rgDepth => exact checkPositive_ok_iff
  | stripeUnit => exact checkStripeUnit_ok_iff
  | rgWidth => exact checkBetween_ok_iff (by decide)
  | description => exact iff_of_true rfl trivial

def checked : List Attribute := Attribute.all.filter (· ≠ .description)

example : checked.map Attribute.name = ["bladeset", "recoverypriority", "efsa", "volservice", "layout",
    "maxwidth", "stripeunit", "rgwidth", "rgdepth", "user", "group", "uperm", "gperm", "operm",
    "encryption"] := by decide

section Checking

variable {d d' : Dictionary} {a : Attribute}

/-- The value of an attribute, if there is one, is one that it takes. -/
def Fits (d : Dictionary) (a : Attribute) : Prop := ∀ value, d[a.key]? = some value → Language a value

theorem checkAttribute_ok_iff : checkAttribute d a = .ok () ↔ Fits d a := by
  rw [checkAttribute, Fits]
  cases d[a.key]? with
  | none => simp
  | some value => simp [Except.mapError_ok_iff, check_ok_iff]

theorem checkAttribute_error_iff {e : ValidationError} : checkAttribute d a = .error e ↔
    ∃ value refusal, d[a.key]? = some value ∧ check a value = .error refusal ∧
      e = .parameter a refusal := by
  rw [checkAttribute]
  cases d[a.key]? with
  | none => simp
  | some value => simp [Except.mapError_error_iff]

theorem checkAttribute_description (d : Dictionary) : checkAttribute d .description = .ok () :=
  checkAttribute_ok_iff.2 fun _ _ ↦ trivial

theorem parameters_eq (d : Dictionary) : parameters d = checked.forM (checkAttribute d) := by
  rw [parameters, checked]
  induction Attribute.all with
  | nil => rfl
  | cons a as ih =>
    by_cases ha : a = .description
    · rw [List.filter_cons_of_neg (by simpa using ha), ← ih, ha]
      change checkAttribute d .description >>= _ = _
      rw [checkAttribute_description]
      rfl
    · rw [List.filter_cons_of_pos (by simpa using ha)]
      change checkAttribute d a >>= _ = checkAttribute d a >>= _
      rw [ih]

theorem parameters_congr (h : ∀ a ∈ checked, d'[a.key]? = d[a.key]?) : parameters d' = parameters d := by
  rw [parameters_eq, parameters_eq]
  refine Except.forM_congr fun a ha ↦ ?_
  rw [checkAttribute, checkAttribute, h a ha]

/-- **A creation's parameters are accepted exactly if each checked attribute among them has a value that it
takes.** Otherwise the error names the first attribute, in their order, that has none of its values, and no
other entry of the parameters is of any account. -/
theorem parameters_accept_languages (d : Dictionary) :
    (parameters d = .ok () ↔ ∀ a ∈ checked, Fits d a) ∧
      (∀ e, parameters d = .error e → ∃ before a after value refusal,
        checked = before ++ a :: after ∧ (∀ b ∈ before, Fits d b) ∧ d[a.key]? = some value ∧
          ¬Language a value ∧ check a value = .error refusal ∧ e = .parameter a refusal) ∧
      ∀ d' : Dictionary, (∀ a ∈ checked, d'[a.key]? = d[a.key]?) → parameters d' = parameters d := by
  refine ⟨?_, fun e h ↦ ?_, fun d' ↦ parameters_congr⟩
  · rw [parameters_eq, Except.forM_ok_iff]
    simp only [checkAttribute_ok_iff]
  · rw [parameters_eq] at h
    obtain ⟨before, a, after, hchecked, hbefore, ha⟩ := Except.of_forM_error h
    obtain ⟨value, refusal, hvalue, hrefused, rfl⟩ := checkAttribute_error_iff.1 ha
    refine ⟨before, a, after, value, refusal, hchecked, fun b hb ↦ checkAttribute_ok_iff.1 (hbefore b hb),
      hvalue, fun hfits ↦ ?_, hrefused, rfl⟩
    rw [← check_ok_iff, hrefused] at hfits
    cases hfits

/-- A wide enough group of a readable size passes, whatever the other driver is told. A layout that the realm
does not have is refused before the width that is no number. -/
theorem parameters_accept_languages_examples :
    (∀ a ∈ checked, Fits (Dictionary.ofList [(Attribute.stripeUnit.key, "4m"),
        (Attribute.rgWidth.key, "+07"), ("layout", "raid0")]) a) ∧
      ∃ before a after value refusal, checked = before ++ a :: after ∧
        (∀ b ∈ before, Fits (Dictionary.ofList [(Attribute.maxWidth.key, "wide"),
          (Attribute.layout.key, "raid0")]) b) ∧
        (Dictionary.ofList [(Attribute.maxWidth.key, "wide"),
          (Attribute.layout.key, "raid0")])[a.key]? = some value ∧
        ¬Language a value ∧ check a value = .error refusal ∧
        ValidationError.parameter .layout ⟨"raid0", .notOneOf layouts⟩ = .parameter a refusal :=
  ⟨(parameters_accept_languages _).1.1 rfl, (parameters_accept_languages _).2.1 _ rfl⟩

end Checking

end RealmDriver.Validation
