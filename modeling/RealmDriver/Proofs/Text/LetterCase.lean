import RealmDriver.Proofs.Text.Blank
import RealmDriver.Proofs.Text.Phrases

namespace RealmDriver.Text

/-- A piece of the text is the phrase in some letter case. -/
def HasPhrase (phrase s : String) : Prop :=
  ∃ w, w <:+: s.toList ∧ w.map Char.toLower = phrase.toList

/-- A phrase that ASCII letters alone can make up. Two other characters have a letter in their lower case:
one is a `k` there, one an `i` with a mark behind it. -/
structure IsPlain (cs : List Char) : Prop where
  ascii : ∀ c ∈ cs, c.toNat < 128
  kelvin : 'k' ∉ cs
  dotted : cs.getLast? ≠ some 'i'

instance (cs : List Char) : Decidable (IsPlain cs) :=
  decidable_of_iff ((∀ c ∈ cs, c.toNat < 128) ∧ 'k' ∉ cs ∧ cs.getLast? ≠ some 'i')
    ⟨fun h ↦ ⟨h.1, h.2.1, h.2.2⟩, fun h ↦ ⟨h.ascii, h.kelvin, h.dotted⟩⟩

variable {phrase s : String} {p w cs : List Char} {c : Char}

theorem IsPlain.tail (h : IsPlain (c :: cs)) : IsPlain cs where
  ascii d hd := h.ascii d (List.mem_cons_of_mem _ hd)
  kelvin hk := h.kelvin (List.mem_cons_of_mem _ hk)
  dotted hi := h.dotted (by rw [List.getLast?_cons, hi]; rfl)

theorem lowerAscii_of_toLower (h : c.toLower.toNat < 128) : lowerAscii c = [c.toLower] := by
  have hne : ∀ n, ¬(Char.ofNat n).toLower.toNat < 128 → c.toNat ≠ n := by
    rintro n hn rfl
    rw [Char.ofNat_toNat] at hn
    exact hn h
  rw [lowerAscii, if_neg (hne _ (by decide)), if_neg (hne _ (by decide))]

/-- What a character may become in lower case. Of a character beyond ASCII none of ASCII comes, whatever it is
and whatever stands around it, but for the two that `lowerAscii` knows. -/
inductive LowersTo : Char → List Char → Prop
  | known (c : Char) : LowersTo c (lowerAscii c)
  | foreign {c : Char} {piece : List Char} (hc : 128 ≤ c.toNat) (hne : piece ≠ [])
      (hpiece : ∀ d ∈ piece, 128 ≤ d.toNat) : LowersTo c piece

inductive Lowered : List Char → List Char → Prop
  | nil : Lowered [] []
  | cons {c : Char} {piece cs ds : List Char} (hc : LowersTo c piece) (h : Lowered cs ds) :
      Lowered (c :: cs) (piece ++ ds)

theorem LowersTo.foreign_of_mem_tail {piece : List Char} {d : Char} (h : LowersTo c piece)
    (hd : d ∈ piece.tail) : 128 ≤ d.toNat := by
  cases h with
  | foreign _ _ hpiece => exact hpiece d (List.mem_of_mem_tail hd)
  | known =>
    rw [lowerAscii] at hd
    split_ifs at hd
    · cases hd
    · rw [List.tail_cons, List.mem_singleton] at hd
      rw [hd]
      decide
    · cases hd

theorem LowersTo.eq_singleton {piece : List Char} (h : LowersTo c piece) (hc : c.toLower.toNat < 128) :
    piece = [c.toLower] := by
  cases h with
  | known => exact lowerAscii_of_toLower hc
  | foreign hforeign =>
    have hsame : c.toLower = c := dif_neg fun hupper ↦ by
      have hle : c.toNat ≤ 90 := hupper.2
      omega
    rw [hsame] at hc
    omega

theorem infix_of_foreign_append {piece ds : List Char} (hne : p ≠ []) (hp : ∀ c ∈ p, c.toNat < 128)
    (hpiece : ∀ d ∈ piece, 128 ≤ d.toNat) (h : p <:+: piece ++ ds) : p <:+: ds := by
  induction piece with
  | nil => exact h
  | cons d piece ih =>
    rw [List.forall_mem_cons] at hpiece
    refine ih hpiece.2 ((List.infix_cons_iff.1 h).resolve_left fun hstart ↦ ?_)
    rcases List.prefix_cons_iff.1 hstart with rfl | ⟨q, rfl, -⟩
    · exact hne rfl
    · exact absurd (hp d List.mem_cons_self) (Nat.not_lt.2 hpiece.1)

namespace Lowered

variable {ds : List Char}

theorem flatMap (cs : List Char) : Lowered cs (cs.flatMap lowerAscii) := by
  induction cs with
  | nil => exact .nil
  | cons c cs ih => exact .cons (.known c) ih

theorem exists_of_append {a b : List Char} (h : Lowered (a ++ b) ds) :
    ∃ d e, Lowered a d ∧ Lowered b e ∧ ds = d ++ e := by
  induction a generalizing ds with
  | nil => exact ⟨[], ds, .nil, h, rfl⟩
  | cons c a ih =>
    cases h with
    | @cons _ piece _ ds hc h =>
      obtain ⟨d, e, hd, he, rfl⟩ := ih h
      exact ⟨piece ++ d, e, .cons hc hd, he, (List.append_assoc ..).symm⟩

theorem eq_map_toLower (hl : Lowered w ds) (h : ∀ c ∈ w.map Char.toLower, c.toNat < 128) :
    ds = w.map Char.toLower := by
  induction hl with
  | nil => rfl
  | cons hc hl ih =>
    rw [List.map_cons, List.forall_mem_cons] at h
    rw [hc.eq_singleton h.1, ih h.2, List.map_cons, List.singleton_append]

theorem exists_initial (hl : Lowered cs ds) (hp : IsPlain p) (h : p <+: ds) :
    ∃ w, w <+: cs ∧ w.map Char.toLower = p := by
  induction hl generalizing p with
  | nil => exact ⟨[], List.nil_prefix, (List.prefix_nil.1 h).symm⟩
  | @cons c piece cs ds hc hl ih =>
    cases p with
    | nil => exact ⟨[], List.nil_prefix, rfl⟩
    | cons d p =>
      cases hc with
      | foreign hforeign hne hpiece =>
        obtain ⟨e, piece, rfl⟩ := List.exists_cons_of_ne_nil hne
        obtain ⟨rfl, -⟩ := List.cons_prefix_cons.1 h
        exact absurd (hp.ascii _ List.mem_cons_self) (Nat.not_lt.2 (hpiece _ List.mem_cons_self))
      | known =>
        rw [lowerAscii] at h
        split_ifs at h with hkelvin hdotted
        · exact absurd (List.cons_prefix_cons.1 h).1 (fun hd ↦ hp.kelvin (hd ▸ List.mem_cons_self))
        · obtain ⟨rfl, hrest⟩ := List.cons_prefix_cons.1 h
          rcases List.prefix_cons_iff.1 hrest with rfl | ⟨q, rfl, -⟩
          · exact absurd rfl hp.dotted
          · -- the mark would have to be in the phrase
            exact absurd (hp.tail.ascii _ List.mem_cons_self) (by decide)
        · obtain ⟨rfl, hrest⟩ := List.cons_prefix_cons.1 h
          obtain ⟨w, hw, rfl⟩ := ih hp.tail hrest
          exact ⟨c :: w, List.cons_prefix_cons.2 ⟨rfl, hw⟩, rfl⟩

theorem exists_infix (hl : Lowered cs ds) (hp : IsPlain p) (h : p <:+: ds) :
    ∃ w, w <:+: cs ∧ w.map Char.toLower = p := by
  induction hl with
  | nil => exact ⟨[], List.nil_infix, (List.infix_nil.1 h).symm⟩
  | @cons c piece cs ds hc hl ih =>
    by_cases hprefix : p <+: piece ++ ds
    · obtain ⟨w, hw, hlower⟩ := (Lowered.cons hc hl).exists_initial hp hprefix
      exact ⟨w, hw.isInfix, hlower⟩
    · have hne : p ≠ [] := fun hnil ↦ hprefix (hnil ▸ List.nil_prefix)
      have hlater : p <:+: piece.tail ++ ds := by
        cases piece with
        | nil => exact h
        | cons d piece => exact (List.infix_cons_iff.1 h).resolve_left hprefix
      obtain ⟨w, hw, hlower⟩ := ih (infix_of_foreign_append hne hp.ascii
        (fun _ hd ↦ hc.foreign_of_mem_tail hd) hlater)
      exact ⟨w, hw.trans (List.suffix_cons c cs).isInfix, hlower⟩

/-- However the rest of a text is put in lower case, a phrase stands in it just if it stands in the text in
some letter case. -/
theorem infix_iff (hl : Lowered s.toList ds) (hp : IsPlain phrase.toList) :
    phrase.toList <:+: ds ↔ HasPhrase phrase s := by
  constructor
  · exact hl.exists_infix hp
  · rintro ⟨w, ⟨a, b, hw⟩, hlower⟩
    rw [← hw] at hl
    obtain ⟨d, _, hd, -, rfl⟩ := hl.exists_of_append
    obtain ⟨d, e, -, he, rfl⟩ := hd.exists_of_append
    rw [he.eq_map_toLower (hlower ▸ hp.ascii), hlower]
    exact ⟨d, _, rfl⟩

end Lowered

theorem mentions_iff_hasPhrase (hp : IsPlain phrase.toList) :
    mentions phrase s = true ↔ HasPhrase phrase s := by
  rw [mentions_iff, (Lowered.flatMap s.toList).infix_iff hp]

theorem hasPhrase_iff_infix_map : HasPhrase phrase s ↔ phrase.toList <:+: s.toList.map Char.toLower := by
  simp only [HasPhrase, List.infix_map_iff, eq_comm]

theorem hasPhrase_congr {t : String} (h : s.toList.map Char.toLower = t.toList.map Char.toLower) :
    HasPhrase phrase s ↔ HasPhrase phrase t := by
  rw [hasPhrase_iff_infix_map, hasPhrase_iff_infix_map, h]

/-- What surrounds a text takes no phrase away. -/
theorem HasPhrase.surrounded (h : HasPhrase phrase s) (before after : String) :
    HasPhrase phrase (before ++ s ++ after) := by
  obtain ⟨w, hw, hlower⟩ := h
  refine ⟨w, hw.trans ⟨before.toList, after.toList, ?_⟩, hlower⟩
  rw [String.toList_append, String.toList_append]

theorem toLower_of_isBlank (h : isBlank c = true) : c.toLower = c := by
  refine dif_neg fun hupper ↦ ?_
  have hge : 65 ≤ c.toNat := hupper.1
  have hle : c.toNat ≤ 90 := hupper.2
  simp only [isBlank, Bool.or_eq_true, Bool.and_eq_true, decide_eq_true_eq, beq_iff_eq] at h
  omega

theorem IsTrimmed.of_map_toLower (h : IsTrimmed (w.map Char.toLower)) : IsTrimmed w := by
  have hblank : ∀ c : Char, isBlank c.toLower = false → isBlank c = false := by
    intro c hc
    refine Bool.eq_false_iff.2 fun hblank ↦ ?_
    rw [toLower_of_isBlank hblank, hblank] at hc
    cases hc
  constructor
  · intro c hc
    exact hblank c (h.head _ (by rw [List.head?_map]; exact Option.mem_map_of_mem _ hc))
  · intro c hc
    exact hblank c (h.last _ (by rw [List.getLast?_map]; exact Option.mem_map_of_mem _ hc))

theorem infix_dropWhile {drops : Char → Bool} (hw : ∀ c ∈ w.head?, drops c = false) (h : w <:+: cs) :
    w <:+: cs.dropWhile drops := by
  induction cs with
  | nil => exact h
  | cons c cs ih =>
    cases hc : drops c with
    | false => rwa [List.dropWhile_cons_of_neg (Bool.eq_false_iff.1 hc)]
    | true =>
      rw [List.dropWhile_cons_of_pos hc]
      rcases List.infix_cons_iff.1 h with hstart | hlater
      · rcases List.prefix_cons_iff.1 hstart with rfl | ⟨q, rfl, -⟩
        · exact List.nil_infix
        · exact absurd (hc.symm.trans (hw c rfl)) (by decide)
      · exact ih hlater

theorem infix_trim (hw : IsTrimmed w) (h : w <:+: s.toList) : w <:+: (trim s).toList := by
  have hstart : w <:+: trimStart s.toList := infix_dropWhile hw.head h
  rw [trim, String.toList_ofList, trimEnd, ← List.reverse_infix, List.reverse_reverse]
  refine infix_dropWhile ?_ (List.reverse_infix.2 hstart)
  rw [List.head?_reverse]
  exact hw.last

theorem hasPhrase_trim (hp : IsTrimmed phrase.toList) : HasPhrase phrase (trim s) ↔ HasPhrase phrase s := by
  constructor
  · rintro ⟨w, hw, hlower⟩
    exact ⟨w, hw.trans (isInfix_of_trim s), hlower⟩
  · rintro ⟨w, hw, hlower⟩
    exact ⟨w, infix_trim (.of_map_toLower (hlower ▸ hp)) hw, hlower⟩

theorem infix_or_of_not_mem {a b : List Char} (hc : c ∉ w) (h : w <:+: a ++ c :: b) :
    w <:+: a ∨ w <:+: b := by
  have hnil : ∀ {l}, l <+: c :: b → l ⊆ w → l = [] := by
    intro l hl hsub
    rcases List.prefix_cons_iff.1 hl with rfl | ⟨q, rfl, -⟩
    · rfl
    · exact absurd (hsub List.mem_cons_self) hc
  rcases List.infix_append_iff.1 h with hleft | hright | ⟨l, l', rfl, hl, hl'⟩
  · exact .inl hleft
  · rcases List.infix_cons_iff.1 hright with hstart | hlater
    · rw [hnil hstart (List.Subset.refl w)]
      exact .inl List.nil_infix
    · exact .inr hlater
  · rw [hnil hl' (List.subset_append_right l l'), List.append_nil]
    exact .inl hl.isInfix

theorem hasPhrase_iff_of_toList {a b : String} (hs : s.toList = a.toList ++ c :: b.toList)
    (hlower : c.toLower = c) (hc : c ∉ phrase.toList) :
    HasPhrase phrase s ↔ HasPhrase phrase a ∨ HasPhrase phrase b := by
  constructor
  · rintro ⟨w, hw, hphrase⟩
    rw [hs] at hw
    have hnot : c ∉ w := fun hmem ↦ hc (hphrase ▸ hlower ▸ List.mem_map_of_mem hmem)
    exact (infix_or_of_not_mem hnot hw).imp (⟨w, ·, hphrase⟩) (⟨w, ·, hphrase⟩)
  · rintro (⟨w, hw, hphrase⟩ | ⟨w, hw, hphrase⟩)
    · exact ⟨w, hs ▸ List.infix_append_of_infix_left hw, hphrase⟩
    · exact ⟨w, hs ▸ List.infix_append_of_infix_right (hw.trans (List.suffix_cons c _).isInfix), hphrase⟩

end RealmDriver.Text
