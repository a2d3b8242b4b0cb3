import Mathlib.Data.List.TakeWhile
import RealmDriver.Number.Numeral
import RealmDriver.Proofs.Number.Shortest
import RealmDriver.Text.Blank

namespace RealmDriver

namespace Numeral

theorem value_eq (cs : List Char) : value cs = Nat.ofDigitChars 10 cs 0 := rfl

theorem isDigit_of_mem_toDigits {n : Nat} {c : Char} (h : c ∈ Nat.toDigits 10 n) :
    isDigit c = true := Nat.isDigit_of_mem_toDigits (by omega) (by omega) h

theorem value_toDigits (n : Nat) : value (Nat.toDigits 10 n) = n := Nat.ofDigitChars_ten_toDigits

theorem value_zeros_append (n : Nat) (cs : List Char) :
    value (List.replicate n '0' ++ cs) = value cs := by
  rw [value_eq, Nat.ofDigitChars_append, Nat.ofDigitChars_replicate_zero, Nat.mul_zero, value_eq]

theorem value_append_zeros (cs : List Char) (n : Nat) :
    value (cs ++ List.replicate n '0') = value cs * 10 ^ n := by
  rw [value_eq, Nat.ofDigitChars_append, Nat.ofDigitChars_replicate_zero, value_eq, Nat.mul_comm]

theorem toLower_of_isDigit {c : Char} (h : isDigit c = true) : c.toLower = c := by
  have hle : c.val ≤ '9'.val := of_decide_eq_true (Bool.and_eq_true_iff.1 h).2
  refine dif_neg fun hupper ↦ ?_
  exact absurd (UInt32.le_trans hupper.1 hle) (by decide)

theorem not_isBlank_of_isDigit {c : Char} (h : isDigit c = true) :
    Text.isBlank c = false := by
  have hge : '0'.toNat ≤ c.toNat := of_decide_eq_true (Bool.and_eq_true_iff.1 h).1
  have hle : c.toNat ≤ '9'.toNat := of_decide_eq_true (Bool.and_eq_true_iff.1 h).2
  have hzero : '0'.toNat = 48 := rfl
  have hnine : '9'.toNat = 57 := rfl
  simp only [Text.isBlank, Bool.or_eq_false_iff, Bool.and_eq_false_iff, decide_eq_false_iff_not,
    beq_eq_false_iff_ne]
  omega

end Numeral

namespace Binary64

variable (negative : Bool) {rank : Nat} {d : Decimal}

theorem readNumber?_whole (whole : List Char) (hw : ∀ c ∈ whole, Numeral.isDigit c = true)
    (hne : whole ≠ []) :
    readNumber? negative whole =
      some (ofDecimal negative (Numeral.value whole) whole.length 0) := by
  have htake : whole.takeWhile Numeral.isDigit = whole := List.takeWhile_eq_self_iff.2 hw
  have hdrop : whole.dropWhile Numeral.isDigit = [] := List.dropWhile_eq_nil_iff.2 hw
  simp [readNumber?, readNumber?.power?, htake, hdrop, hne]

theorem readNumber?_point (whole fraction : List Char)
    (hw : ∀ c ∈ whole, Numeral.isDigit c = true) (hf : ∀ c ∈ fraction, Numeral.isDigit c = true)
    (hne : whole ++ fraction ≠ []) :
    readNumber? negative (whole ++ '.' :: fraction) =
      some (ofDecimal negative (Numeral.value (whole ++ fraction)) (whole ++ fraction).length
        (0 - fraction.length)) := by
  have htake : (whole ++ '.' :: fraction).takeWhile Numeral.isDigit = whole := by
    rw [List.takeWhile_append_of_pos hw, List.takeWhile_cons_of_neg (by decide), List.append_nil]
  have hdrop : (whole ++ '.' :: fraction).dropWhile Numeral.isDigit = '.' :: fraction := by
    rw [List.dropWhile_append_of_pos hw, List.dropWhile_cons_of_neg (by decide)]
  have htake' : fraction.takeWhile Numeral.isDigit = fraction := List.takeWhile_eq_self_iff.2 hf
  have hdrop' : fraction.dropWhile Numeral.isDigit = [] := List.dropWhile_eq_nil_iff.2 hf
  have hempty : (whole ++ fraction).isEmpty = false := by simpa using hne
  simp only [readNumber?, readNumber?.power?, htake, hdrop, htake', hdrop', hempty, Bool.false_eq_true,
    if_false, Option.map_some]

theorem ofDecimal_of_isFor {places : Nat} (hrank : rank ≤ infinityRank) (hd : d.digits ≠ 0)
    (hx : d.exponent ≤ 0) (hp : 0 ≤ d.exponent + places) (h : d.IsFor rank) :
    ofDecimal negative d.digits places d.exponent = ofRank negative rank := by
  have hnearest := nearestRank_of_readsBack d.fraction_pos h
  rw [Nat.min_eq_right hrank] at hnearest
  rw [ofDecimal, if_neg hd, if_neg (by omega), if_neg (by omega)]
  split
  · have hzero : d.exponent = 0 := by omega
    simpa [ofRatio, Decimal.fraction, hzero] using congrArg (ofRank negative) hnearest
  · have hzero : d.exponent.toNat = 0 := by omega
    simpa [ofRatio, Decimal.fraction, hzero] using congrArg (ofRank negative) hnearest

theorem positional_head (d : Decimal) :
    ∃ c cs, d.positional = c :: cs ∧ Numeral.isDigit c = true := by
  obtain ⟨c, cs, hcs⟩ := List.exists_cons_of_ne_nil (Nat.toDigits_ne_nil (n := d.digits) (b := 10))
  have hc : Numeral.isDigit c = true :=
    Numeral.isDigit_of_mem_toDigits (n := d.digits) (by simp [hcs])
  simp only [Decimal.positional, hcs]
  split
  · exact ⟨'0', _, rfl, by decide⟩
  · split
    · exact ⟨c, _, rfl, hc⟩
    · rename_i hpoint _
      obtain ⟨n, hn⟩ := Nat.exists_eq_succ_of_ne_zero
        (show (((c :: cs).length : Int) + d.exponent).toNat ≠ 0 by omega)
      rw [hn]
      exact ⟨c, _, rfl, hc⟩

theorem isDigit_zeros (n : Nat) : ∀ c ∈ List.replicate n '0', Numeral.isDigit c = true := by
  intro c hc
  rw [List.eq_of_mem_replicate hc]
  decide

theorem readNumber?_fraction (whole fraction : List Char)
    (hw : ∀ c ∈ whole, Numeral.isDigit c = true) (hf : ∀ c ∈ fraction, Numeral.isDigit c = true)
    (hne : whole ≠ []) (hvalue : Numeral.value (whole ++ fraction) = d.digits)
    (hx : d.exponent = -fraction.length) (hrank : rank ≤ infinityRank) (hd : d.digits ≠ 0)
    (h : d.IsFor rank) :
    readNumber? negative (whole ++ '.' :: fraction) = some (ofRank negative rank) := by
  have hread := readNumber?_point negative whole fraction hw hf
    (List.append_ne_nil_of_left_ne_nil hne fraction)
  have hlength : (whole ++ fraction).length = whole.length + fraction.length :=
    List.length_append
  rw [hvalue, show (0 - fraction.length : Int) = d.exponent by omega] at hread
  rw [hread, ofDecimal_of_isFor negative hrank hd (by omega) (by omega) h]

theorem readNumber?_zeros {digits : List Char}
    (hdigit : ∀ c ∈ digits, Numeral.isDigit c = true) (hne : digits ≠ [])
    (hvalue : Numeral.value digits = d.digits) (hx : 0 ≤ d.exponent) (hrank : rank ≤ infinityRank)
    (hd : d.digits ≠ 0) (h : d.IsFor rank) :
    readNumber? negative (digits ++ List.replicate d.exponent.toNat '0') =
      some (ofRank negative rank) := by
  have hall : ∀ c ∈ digits ++ List.replicate d.exponent.toNat '0', Numeral.isDigit c = true := by
    intro c hc
    rcases List.mem_append.1 hc with hc | hc
    · exact hdigit c hc
    · exact isDigit_zeros _ c hc
  have hread := readNumber?_whole negative _ hall (by simp [hne])
  rw [Numeral.value_append_zeros, hvalue] at hread
  have hmoved := @Decimal.fraction_congr ⟨d.digits * 10 ^ d.exponent.toNat, 0⟩ d
    d.exponent.toNat rfl (by simp only; omega)
  have hpos : d.digits * 10 ^ d.exponent.toNat ≠ 0 :=
    Nat.mul_ne_zero hd (Nat.pow_pos (by omega)).ne'
  have hvalue := ofDecimal_of_isFor negative hrank hpos le_rfl
    (show (0 : Int) ≤ 0 + (digits ++ List.replicate d.exponent.toNat '0').length by omega)
    (h.congr hmoved.symm)
  rw [hread, hvalue]

theorem readNumber?_positional (hrank : rank ≤ infinityRank) (hd : d.digits ≠ 0)
    (h : d.IsFor rank) : readNumber? negative d.positional = some (ofRank negative rank) := by
  have hvalue := Numeral.value_toDigits d.digits
  have hdigit : ∀ c ∈ Nat.toDigits 10 d.digits, Numeral.isDigit c = true :=
    fun c ↦ Numeral.isDigit_of_mem_toDigits
  have hne := Nat.toDigits_ne_nil (n := d.digits) (b := 10)
  simp only [Decimal.positional]
  generalize Nat.toDigits 10 d.digits = digits at *
  split
  · -- all digits stand behind the point
    rename_i hpoint
    refine readNumber?_fraction negative ['0']
      (List.replicate (-(digits.length + d.exponent)).toNat '0' ++ digits)
      (List.forall_mem_singleton.2 (by decide)) ?_ (by decide) ?_ ?_ hrank hd h
    · intro c hc
      rcases List.mem_append.1 hc with hc | hc
      · exact isDigit_zeros _ c hc
      · exact hdigit c hc
    · have hfirst := Numeral.value_zeros_append 1
      rw [List.replicate_one] at hfirst
      rw [hfirst, Numeral.value_zeros_append, hvalue]
    · rw [List.length_append, List.length_replicate]
      omega
  · split
    · -- all digits stand before the point
      rename_i hpoint hexp
      exact readNumber?_zeros negative hdigit hne hvalue (by omega) hrank hd h
    · rename_i hpoint hexp
      refine readNumber?_fraction negative (digits.take _) (digits.drop _)
        (fun c hc ↦ hdigit c (List.mem_of_mem_take hc))
        (fun c hc ↦ hdigit c (List.mem_of_mem_drop hc)) ?_ ?_ ?_ hrank hd h
      · simp [hne]
        omega
      · rw [List.take_append_drop, hvalue]
      · rw [List.length_drop]
        omega

theorem readUnsigned?_of_isDigit {c : Char} (hc : Numeral.isDigit c = true) (cs : List Char) :
    readUnsigned? negative (c :: cs) = readNumber? negative (c :: cs) := by
  have hi : c ≠ 'i' := fun h ↦ absurd (h ▸ hc) (by decide)
  have hn : c ≠ 'n' := fun h ↦ absurd (h ▸ hc) (by decide)
  simp [readUnsigned?, Numeral.toLower_of_isDigit hc, hi, hn]

theorem read?_negative (cs : List Char) :
    read? (String.ofList ('-' :: cs)) = readUnsigned? true cs := by
  simp [read?]

theorem read?_of_isDigit {c : Char} (hc : Numeral.isDigit c = true) (cs : List Char) :
    read? (String.ofList (c :: cs)) = readUnsigned? false (c :: cs) := by
  have hminus : c ≠ '-' := fun h ↦ absurd (h ▸ hc) (by decide)
  have hplus : c ≠ '+' := fun h ↦ absurd (h ▸ hc) (by decide)
  simp [read?, hminus, hplus]

theorem rankText_eq_or (rank : Nat) :
    rank = infinityRank ∧ rankText rank = ['i', 'n', 'f'] ∨
      ∃ c cs, rankText rank = c :: cs ∧ Numeral.isDigit c = true := by
  rw [rankText]
  split
  · exact .inr ⟨'0', [], rfl, by decide⟩
  · split
    · exact .inl ⟨‹_›, rfl⟩
    · exact .inr (positional_head _)

theorem readNumber?_rankText (hrank : rank < infinityRank) :
    readNumber? negative (rankText rank) = some (ofRank negative rank) := by
  rw [rankText, if_neg (show rank ≠ infinityRank by omega)]
  split
  · rename_i hzero
    rw [readNumber?_whole negative _ (List.forall_mem_singleton.2 (by decide)) (by decide), hzero]
    rfl
  · have hshortest := shortest_isFor (show 0 < rank by omega)
    have hnormal := Decimal.normalize_isFor hshortest 20
    exact readNumber?_positional negative hrank.le (hnormal.digits_ne_zero (by omega)) hnormal

theorem readUnsigned?_rankText (hrank : rank ≤ infinityRank) :
    readUnsigned? negative (rankText rank) = some (ofRank negative rank) := by
  rcases rankText_eq_or rank with ⟨rfl, htext⟩ | ⟨c, cs, htext, hc⟩
  · rw [htext]
    rfl
  · have hlt : rank < infinityRank := by
      refine lt_of_le_of_ne hrank fun heq ↦ ?_
      rw [heq] at htext
      cases htext
      exact absurd hc (by decide)
    rw [htext, readUnsigned?_of_isDigit negative hc, ← htext, readNumber?_rankText negative hlt]

theorem ofRank_val (negative : Bool) (r : Fin (infinityRank + 1)) :
    ofRank negative r.val = .signed negative r := by
  simp only [ofRank, Nat.min_eq_right (Nat.le_of_lt_succ r.isLt)]

/-- Every double is read back from its text. -/
theorem read?_text (x : Binary64) : read? (text x) = some x := by
  cases x with
  | nan => rfl
  | signed negative r =>
    have hrank : r.val ≤ infinityRank := Nat.le_of_lt_succ r.isLt
    cases negative with
    | true => rw [text, read?_negative, readUnsigned?_rankText true hrank, ofRank_val]
    | false =>
      have hread := readUnsigned?_rankText false hrank
      rw [ofRank_val] at hread
      rw [text, ← hread]
      rcases rankText_eq_or r.val with ⟨-, htext⟩ | ⟨c, cs, htext, hc⟩
      · rw [htext]
        rfl
      · rw [htext, read?_of_isDigit hc]

end Binary64

end RealmDriver
