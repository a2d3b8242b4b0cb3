import RealmDriver.Proofs.Number.Text
import RealmDriver.Proofs.Text.Character

namespace RealmDriver

structure DecimalText where
  sign : List Char
  whole : List Char
  /-- What stands behind the point, if there is one. -/
  fraction : Option (List Char)
  sign_mem : sign ∈ [[], ['+'], ['-']]
  digits : ∀ c ∈ whole ++ fraction.getD [], Numeral.isDigit c = true
  digits_ne_nil : whole ++ fraction.getD [] ≠ []

namespace DecimalText

variable (d : DecimalText)

def figures : List Char := d.whole ++ d.fraction.getD []

def unsigned : List Char :=
  d.whole ++ match d.fraction with
    | some fraction => '.' :: fraction
    | none => []

def text : List Char := d.sign ++ d.unsigned

def isNegative : Bool := d.sign = ['-']

def value : Binary64 :=
  Binary64.ofRatio d.isNegative (Numeral.value d.figures) (10 ^ (d.fraction.getD []).length)

theorem of_mem_text {c : Char} (hc : c ∈ d.text) : Numeral.isDigit c = true ∨ c ∈ ['+', '-', '.'] := by
  have hsign : ∀ s ∈ [[], ['+'], ['-']], ∀ c ∈ s, c ∈ ['+', '-', '.'] := by decide
  rw [text, unsigned, List.mem_append, List.mem_append] at hc
  rcases hc with hc | hc | hc
  · exact .inr (hsign d.sign d.sign_mem c hc)
  · exact .inl (d.digits c (List.mem_append_left _ hc))
  · cases hfraction : d.fraction with
    | none => simp [hfraction] at hc
    | some fraction =>
      rw [hfraction, List.mem_cons] at hc
      rcases hc with rfl | hc
      · exact .inr (by decide)
      · exact .inl (d.digits c (by simp [hfraction, hc]))

end DecimalText

namespace Binary64

theorem nearestRank_zero {den : Nat} (hden : 0 < den) : nearestRank 0 den = 0 := by
  simp [nearestRank, roundHalfEven, hden]

theorem ofDecimal_fraction (negative : Bool) {digits places fraction : Nat} (h : fraction ≤ places) :
    ofDecimal negative digits places (0 - fraction) = ofRatio negative digits (10 ^ fraction) := by
  rw [ofDecimal]
  split_ifs with hdigits hlarge hsmall hwhole
  · rw [hdigits, ofRatio, Nat.zero_mul, nearestRank_zero (Nat.pow_pos (by omega))]
  · omega
  · omega
  · have hzero : fraction = 0 := by omega
    simp [hzero]
  · have hpower : (-(0 - (fraction : Int))).toNat = fraction := by omega
    rw [hpower]
    rfl

theorem readNumber?_unsigned (negative : Bool) (d : DecimalText) :
    readNumber? negative d.unsigned = some (ofRatio negative (Numeral.value d.figures)
      (10 ^ (d.fraction.getD []).length)) := by
  have hdigits := d.digits
  have hne := d.digits_ne_nil
  rw [List.forall_mem_append] at hdigits
  have hlength : (d.fraction.getD []).length ≤ d.figures.length := by
    rw [DecimalText.figures, List.length_append]
    omega
  rw [← ofDecimal_fraction negative hlength, DecimalText.unsigned, DecimalText.figures]
  cases hfraction : d.fraction with
  | none =>
    rw [hfraction] at hne
    simp only [Option.getD_none, List.append_nil] at hne ⊢
    exact readNumber?_whole negative d.whole hdigits.1 hne
  | some fraction =>
    rw [hfraction] at hdigits hne
    exact readNumber?_point negative d.whole fraction hdigits.1 hdigits.2 hne

theorem unsigned_head (d : DecimalText) :
    ∃ c cs, d.unsigned = c :: cs ∧ (Numeral.isDigit c = true ∨ c = '.') := by
  have hdigits := d.digits
  have hne := d.digits_ne_nil
  rw [DecimalText.unsigned]
  cases hwhole : d.whole with
  | cons c cs => exact ⟨c, _, rfl, .inl (hdigits c (by simp [hwhole]))⟩
  | nil =>
    cases hfraction : d.fraction with
    | none => simp [hwhole, hfraction] at hne
    | some fraction => exact ⟨'.', fraction, rfl, .inr rfl⟩

theorem readUnsigned?_unsigned (negative : Bool) (d : DecimalText) :
    readUnsigned? negative d.unsigned = readNumber? negative d.unsigned := by
  obtain ⟨c, cs, hcs, hc | rfl⟩ := unsigned_head d
  · rw [hcs, readUnsigned?_of_isDigit negative hc]
  · rw [hcs]
    simp [readUnsigned?]

theorem read?_decimal (d : DecimalText) : read? (String.ofList d.text) = some d.value := by
  have hsign := d.sign_mem
  simp only [List.mem_cons, List.not_mem_nil, or_false] at hsign
  have hvalue (negative : Bool) := (readUnsigned?_unsigned negative d).trans (readNumber?_unsigned negative d)
  rw [DecimalText.text, DecimalText.value, DecimalText.isNegative]
  rcases hsign with hsign | hsign | hsign
  · have hplain : read? (String.ofList d.unsigned) = readUnsigned? false d.unsigned := by
      obtain ⟨c, cs, hcs, hc | rfl⟩ := unsigned_head d
      · rw [hcs, read?_of_isDigit hc]
      · simp [read?, hcs]
    rw [hsign, List.nil_append, hplain, hvalue]
    rfl
  · have hplus : read? (String.ofList ('+' :: d.unsigned)) = readUnsigned? false d.unsigned := by
      simp [read?]
    rw [hsign, List.singleton_append, hplus, hvalue]
    rfl
  · rw [hsign, List.singleton_append, read?_negative, hvalue]
    rfl

end Binary64

end RealmDriver
