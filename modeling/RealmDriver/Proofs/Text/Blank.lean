import RealmDriver.Proofs.Text.Character
import RealmDriver.Text.Blank

namespace RealmDriver.Text

variable {separates : Char → Bool} {a p cs : List Char}

theorem splitAt_ne_nil (separates : Char → Bool) (cs : List Char) : splitAt separates cs ≠ [] := by
  cases cs with
  | nil => exact List.cons_ne_nil _ _
  | cons c cs =>
    rw [splitAt]
    split
    · exact List.cons_ne_nil _ _
    · split
      · exact List.cons_ne_nil _ _
      · exact List.cons_ne_nil _ _

theorem splitAt_cons_neg {c : Char} {piece : List Char} {pieces : List (List Char)}
    (hc : separates c = false) (h : splitAt separates cs = piece :: pieces) :
    splitAt separates (c :: cs) = (c :: piece) :: pieces := by
  rw [splitAt, hc, if_neg Bool.false_ne_true, h]

theorem splitAt_append {d : Char} (hd : separates d = true) (a b : List Char) :
    splitAt separates (a ++ d :: b) = splitAt separates a ++ splitAt separates b := by
  induction a with
  | nil => simp [splitAt, hd]
  | cons c a ih =>
    cases hc : separates c with
    | true => simp only [List.cons_append, splitAt, hc, if_true, ih]
    | false =>
      obtain ⟨piece, pieces, hpieces⟩ := List.exists_cons_of_ne_nil (splitAt_ne_nil separates a)
      rw [hpieces, List.cons_append] at ih
      rw [List.cons_append, splitAt_cons_neg hc ih, splitAt_cons_neg hc hpieces, List.cons_append]

theorem splitAt_of_forall (hp : ∀ c ∈ p, separates c = false) : splitAt separates p = [p] := by
  induction p with
  | nil => rfl
  | cons c p ih =>
    rw [List.forall_mem_cons] at hp
    exact splitAt_cons_neg hp.1 (ih hp.2)

theorem splitAt_piece {d : Char} (hd : separates d = true) (hp : ∀ c ∈ p, separates c = false) :
    splitAt separates (p ++ d :: cs) = p :: splitAt separates cs := by
  rw [splitAt_append hd, splitAt_of_forall hp, List.singleton_append]

theorem splitAt_intercalate {d : Char} {pieces : List (List Char)} (hd : separates d = true)
    (hne : pieces ≠ []) (hpieces : ∀ p ∈ pieces, ∀ c ∈ p, separates c = false) :
    splitAt separates ([d].intercalate pieces) = pieces := by
  induction pieces with
  | nil => exact absurd rfl hne
  | cons p pieces ih =>
    rw [List.forall_mem_cons] at hpieces
    cases pieces with
    | nil => rw [List.intercalate_singleton, splitAt_of_forall hpieces.1]
    | cons p' pieces =>
      rw [List.intercalate_cons_cons, List.append_assoc, List.singleton_append,
        splitAt_piece hd hpieces.1, ih (List.cons_ne_nil _ _) hpieces.2]

theorem words_append {d : Char} (hd : isBlank d = true) (a b : List Char) :
    words (a ++ d :: b) = words a ++ words b := by
  rw [words, splitAt_append hd, List.filter_append]
  rfl

theorem words_of_forall (hne : p ≠ []) (hp : ∀ c ∈ p, isBlank c = false) : words p = [p] := by
  rw [words, splitAt_of_forall hp]
  cases p with
  | nil => exact absurd rfl hne
  | cons c p => rfl

theorem words_intercalate (fields : List (List Char)) :
    words ([' '].intercalate fields) = fields.flatMap words := by
  induction fields with
  | nil => rfl
  | cons a fields ih =>
    cases fields with
    | nil => rw [List.intercalate_singleton, List.flatMap_singleton]
    | cons b fields =>
      rw [List.intercalate_cons_cons, List.append_assoc, List.singleton_append,
        words_append (by decide), ih]
      rfl

theorem splitAt_terminated (rows : List (List Char)) (hrows : ∀ r ∈ rows, '\n' ∉ r) :
    splitAt (· == '\n') (rows.flatMap (· ++ ['\n'])) = rows ++ [[]] := by
  induction rows with
  | nil => rfl
  | cons r rows ih =>
    rw [List.forall_mem_cons] at hrows
    rw [List.flatMap_cons, List.append_assoc, List.singleton_append,
      splitAt_piece (by decide), ih hrows.2, List.cons_append]
    intro c hc
    exact beq_eq_false_iff_ne.2 fun h ↦ hrows.1 (h ▸ hc)

theorem lines_terminated (rows : List (List Char)) (hrows : ∀ r ∈ rows, '\n' ∉ r) :
    lines (rows.flatMap (· ++ ['\n'])) = rows.map dropReturn := by
  simp only [lines, splitAt_terminated rows hrows, List.dropLast_concat, List.getLast?_concat]

theorem dropReturn_of_last {row : List Char} {c : Char} (hc : c ≠ '\r') :
    dropReturn (row ++ [c]) = row ++ [c] := by
  rw [dropReturn, List.reverse_append, List.reverse_singleton, List.singleton_append]
  split
  · rename_i h
    exact absurd (List.cons.inj h).1 hc
  · rfl

theorem mem_intercalate {between piece : List Char} {pieces : List (List Char)} {c : Char}
    (hc : c ∈ piece) (hpiece : piece ∈ pieces) : c ∈ between.intercalate pieces := by
  induction pieces with
  | nil => cases hpiece
  | cons first pieces ih =>
    cases pieces with
    | nil =>
      rw [List.mem_singleton.1 hpiece] at hc
      rwa [List.intercalate_singleton]
    | cons second pieces =>
      rw [List.intercalate_cons_cons]
      rcases List.mem_cons.1 hpiece with rfl | hpiece
      · exact List.mem_append_left _ (List.mem_append_left _ hc)
      · exact List.mem_append_right _ (ih hpiece)

theorem of_mem_intercalate {between : Char} {fields : List (List Char)} {c : Char}
    (hc : c ∈ [between].intercalate fields) : c = between ∨ ∃ f ∈ fields, c ∈ f := by
  induction fields with
  | nil => cases hc
  | cons first fields ih =>
    cases fields with
    | nil =>
      rw [List.intercalate_singleton] at hc
      exact .inr ⟨first, List.mem_singleton.2 rfl, hc⟩
    | cons second fields =>
      rw [List.intercalate_cons_cons, List.append_assoc, List.singleton_append, List.mem_append,
        List.mem_cons] at hc
      rcases hc with hc | hc | hc
      · exact .inr ⟨first, List.mem_cons_self, hc⟩
      · exact .inl hc
      · refine (ih hc).imp_right ?_
        rintro ⟨f, hf, hcf⟩
        exact ⟨f, List.mem_cons_of_mem _ hf, hcf⟩

theorem intercalate_concat (between : List Char) (pieces : List (List Char)) :
    ∃ front, ∀ last, between.intercalate (pieces ++ [last]) = front ++ last := by
  induction pieces with
  | nil => exact ⟨[], fun last ↦ List.intercalate_singleton⟩
  | cons first pieces ih =>
    obtain ⟨front, hfront⟩ := ih
    refine ⟨first ++ between ++ front, fun last ↦ ?_⟩
    rw [List.cons_append, List.intercalate_cons_of_ne_nil (by simp), hfront, List.append_assoc _ front]

structure IsTrimmed (cs : List Char) : Prop where
  head : ∀ c ∈ cs.head?, isBlank c = false
  last : ∀ c ∈ cs.getLast?, isBlank c = false

instance (cs : List Char) : Decidable (IsTrimmed cs) :=
  decidable_of_iff ((∀ c ∈ cs.head?, isBlank c = false) ∧ ∀ c ∈ cs.getLast?, isBlank c = false)
    ⟨fun h ↦ ⟨h.1, h.2⟩, fun h ↦ ⟨h.head, h.last⟩⟩

theorem IsTrimmed.of_forall {cs : List Char} (h : ∀ c ∈ cs, isBlank c = false) : IsTrimmed cs where
  head c hc := h c (List.mem_of_mem_head? hc)
  last c hc := h c (List.mem_of_mem_getLast? hc)

theorem dropWhile_of_head {cs : List Char} (h : ∀ c ∈ cs.head?, isBlank c = false) :
    cs.dropWhile isBlank = cs := by
  cases cs with
  | nil => rfl
  | cons c cs => exact List.dropWhile_cons_of_neg (Bool.eq_false_iff.1 (h c rfl))

theorem IsTrimmed.trimStart {cs : List Char} (h : IsTrimmed cs) : Text.trimStart cs = cs :=
  dropWhile_of_head h.head

theorem IsTrimmed.trimEnd {cs : List Char} (h : IsTrimmed cs) : Text.trimEnd cs = cs := by
  rw [Text.trimEnd, dropWhile_of_head (by rw [List.head?_reverse]; exact h.last), List.reverse_reverse]

theorem not_isBlank_of_head?_dropWhile {cs : List Char} {c : Char}
    (hc : c ∈ (cs.dropWhile isBlank).head?) : isBlank c = false := by
  have hhead := List.head?_dropWhile_not isBlank cs
  simpa [Option.mem_def.1 hc] using hhead

theorem trimEnd_append (cs : List Char) :
    cs = Text.trimEnd cs ++ (cs.reverse.takeWhile isBlank).reverse := by
  rw [Text.trimEnd, ← List.reverse_append, List.takeWhile_append_dropWhile, List.reverse_reverse]

theorem isTrimmed_trim (s : String) : IsTrimmed (trim s).toList := by
  rw [trim, String.toList_ofList]
  constructor
  · intro c hc
    have hstart : c ∈ (Text.trimStart s.toList).head? := by
      rw [trimEnd_append (Text.trimStart s.toList), List.head?_append, Option.mem_def.1 hc]
      rfl
    exact not_isBlank_of_head?_dropWhile hstart
  · intro c hc
    rw [Text.trimEnd, List.getLast?_reverse] at hc
    exact not_isBlank_of_head?_dropWhile hc

theorem exists_eq_append_trim (s : String) : ∃ before after,
    s.toList = before ++ (trim s).toList ++ after ∧ ∀ c ∈ before ++ after, isBlank c = true := by
  have hblank {cs : List Char} {c : Char} (hc : c ∈ cs.takeWhile isBlank) : isBlank c = true :=
    List.all_eq_true.1 List.all_takeWhile c hc
  refine ⟨s.toList.takeWhile isBlank,
    ((Text.trimStart s.toList).reverse.takeWhile isBlank).reverse, ?_, ?_⟩
  · rw [trim, String.toList_ofList, List.append_assoc, ← trimEnd_append, Text.trimStart,
      List.takeWhile_append_dropWhile]
  · intro c hc
    rcases List.mem_append.1 hc with hc | hc
    · exact hblank hc
    · exact hblank (List.mem_reverse.1 hc)

theorem trimEnd_append_blank {gap : List Char} (hgap : ∀ c ∈ gap, isBlank c = true) (cs : List Char) :
    Text.trimEnd (cs ++ gap) = Text.trimEnd cs := by
  rw [Text.trimEnd, List.reverse_append, List.dropWhile_append_of_pos, Text.trimEnd]
  simpa using hgap

theorem trim_of_padded {before core after : List Char}
    (hblank : ∀ c ∈ before ++ after, isBlank c = true) (hcore : IsTrimmed core) :
    Text.trimEnd (Text.trimStart (before ++ core ++ after)) = core := by
  rw [List.forall_mem_append] at hblank
  rw [List.append_assoc, Text.trimStart, List.dropWhile_append_of_pos hblank.1]
  cases core with
  | nil =>
    rw [List.nil_append, ← List.append_nil after, List.dropWhile_append_of_pos hblank.2]
    rfl
  | cons c core =>
    rw [dropWhile_of_head (by simpa using hcore.head), trimEnd_append_blank hblank.2, hcore.trimEnd]

section Cutting

variable {c d : Char}

/-- Pieces that a character stands between, and that do not hold it. -/
structure Separated (d : Char) (pieces : List (List Char)) (cs : List Char) : Prop where
  ne_nil : pieces ≠ []
  join : [d].intercalate pieces = cs
  free : ∀ p ∈ pieces, d ∉ p

theorem Separated.cons {pieces : List (List Char)} (h : Separated d pieces cs) :
    Separated d ([] :: pieces) (d :: cs) where
  ne_nil := List.cons_ne_nil _ _
  join := by rw [List.intercalate_cons_of_ne_nil h.ne_nil, h.join]; rfl
  free := List.forall_mem_cons.2 ⟨List.not_mem_nil, h.free⟩

theorem Separated.extend {piece : List Char} {pieces : List (List Char)} (hc : c ≠ d)
    (h : Separated d (piece :: pieces) cs) : Separated d ((c :: piece) :: pieces) (c :: cs) where
  ne_nil := List.cons_ne_nil _ _
  join := by
    rw [← h.join]
    cases pieces with
    | nil => rw [List.intercalate_singleton, List.intercalate_singleton]
    | cons piece' pieces => rw [List.intercalate_cons_cons, List.intercalate_cons_cons]; rfl
  free := by
    have hfree := h.free
    rw [List.forall_mem_cons] at hfree ⊢
    refine ⟨fun hd ↦ ?_, hfree.2⟩
    rcases List.mem_cons.1 hd with rfl | hd
    · exact hc rfl
    · exact hfree.1 hd

theorem separated_splitAt (hd : ∀ c, separates c = true ↔ c = d) (cs : List Char) :
    Separated d (splitAt separates cs) cs := by
  induction cs with
  | nil => exact ⟨List.cons_ne_nil _ _, rfl, List.forall_mem_singleton.2 List.not_mem_nil⟩
  | cons c cs ih =>
    cases hc : separates c with
    | true =>
      obtain rfl := (hd c).1 hc
      rw [splitAt, if_pos hc]
      exact ih.cons
    | false =>
      obtain ⟨piece, pieces, hpieces⟩ := List.exists_cons_of_ne_nil ih.ne_nil
      rw [splitAt_cons_neg hc hpieces]
      rw [hpieces] at ih
      exact ih.extend fun h ↦ Bool.eq_false_iff.1 hc ((hd c).2 h)

theorem splitAt_eq_iff (hd : ∀ c, separates c = true ↔ c = d) {pieces : List (List Char)} :
    splitAt separates cs = pieces ↔ Separated d pieces cs := by
  constructor
  · rintro rfl
    exact separated_splitAt hd cs
  · rintro ⟨hne, rfl, hfree⟩
    refine splitAt_intercalate ((hd d).2 rfl) hne fun p hp c hc ↦ ?_
    rw [Bool.eq_false_iff, Ne, hd]
    rintro rfl
    exact hfree p hp hc

/-- Words with blanks between them, and perhaps around them. -/
inductive Spaced : List (List Char) → List Char → Prop
  | blank {gap : List Char} (hgap : ∀ c ∈ gap, isBlank c = true) : Spaced [] gap
  | word {gap word rest : List Char} {words : List (List Char)}
      (hgap : ∀ c ∈ gap, isBlank c = true) (hne : word ≠ []) (hword : ∀ c ∈ word, isBlank c = false)
      (hrest : ∀ c ∈ rest.head?, isBlank c = true) (h : Spaced words rest) :
      Spaced (word :: words) (gap ++ (word ++ rest))

theorem words_cons (hc : isBlank c = true) (cs : List Char) : words (c :: cs) = words cs :=
  words_append hc [] cs

theorem words_gap {gap : List Char} (hgap : ∀ c ∈ gap, isBlank c = true) (cs : List Char) :
    words (gap ++ cs) = words cs := by
  induction gap with
  | nil => rfl
  | cons c gap ih =>
    rw [List.forall_mem_cons] at hgap
    rw [List.cons_append, words_cons hgap.1, ih hgap.2]

theorem Spaced.words_eq {ws : List (List Char)} (h : Spaced ws cs) : words cs = ws := by
  induction h with
  | blank hgap =>
    have hwords := words_gap hgap []
    rwa [List.append_nil] at hwords
  | @word gap word rest ws hgap hne hword hrest h ih =>
    rw [words_gap hgap, ← ih]
    cases rest with
    | nil => rw [List.append_nil, words_of_forall hne hword]; rfl
    | cons d rest =>
      have hd : isBlank d = true := hrest d rfl
      rw [words_append hd, words_of_forall hne hword, words_cons hd, List.singleton_append]

theorem exists_spaced (cs : List Char) : ∃ ws, Spaced ws cs := by
  induction cs with
  | nil => exact ⟨[], .blank fun c hc ↦ nomatch hc⟩
  | cons c cs ih =>
    obtain ⟨ws, h⟩ := ih
    cases hc : isBlank c with
    | true =>
      cases h with
      | blank hgap => exact ⟨[], .blank (List.forall_mem_cons.2 ⟨hc, hgap⟩)⟩
      | word hgap hne hword hrest h =>
        exact ⟨_, .word (List.forall_mem_cons.2 ⟨hc, hgap⟩) hne hword hrest h⟩
    | false =>
      have hnil : ∀ c ∈ ([] : List Char), isBlank c = true := fun c h ↦ nomatch h
      have hword : ∀ d ∈ [c], isBlank d = false := List.forall_mem_singleton.2 hc
      cases h with
      | blank hgap =>
        exact ⟨_, .word hnil (List.cons_ne_nil c []) hword
          (fun d hd ↦ hgap d (List.mem_of_mem_head? hd)) (.blank hgap)⟩
      | @word gap word rest ws hgap hne hw hrest h =>
        cases gap with
        | nil =>
          exact ⟨_, .word hnil (List.cons_ne_nil c word) (List.forall_mem_cons.2 ⟨hc, hw⟩) hrest h⟩
        | cons d gap =>
          exact ⟨_, .word hnil (List.cons_ne_nil c []) hword
            (fun e he ↦ hgap e (Option.mem_some.1 he ▸ List.mem_cons_self)) (.word hgap hne hw hrest h)⟩

theorem words_eq_iff {ws : List (List Char)} : words cs = ws ↔ Spaced ws cs := by
  refine ⟨?_, Spaced.words_eq⟩
  rintro rfl
  obtain ⟨ws, h⟩ := exists_spaced cs
  rwa [h.words_eq]

theorem words_eq_nil_iff {cs : List Char} : words cs = [] ↔ cs.all isBlank = true := by
  rw [words_eq_iff, List.all_eq_true]
  constructor
  · rintro ⟨hgap⟩
    exact hgap
  · exact .blank

theorem words_dropReturn (line : List Char) : words (dropReturn line) = words line := by
  rw [dropReturn]
  split
  · rename_i r hline
    rw [← List.reverse_reverse line, hline, List.reverse_cons, words_append (by decide)]
    exact (List.append_nil _).symm
  · rfl

theorem words_lines (cs : List Char) :
    ((lines cs).filter (!·.all isBlank)).map words =
      ((splitAt (· == '\n') cs).filter (!·.all isBlank)).map words := by
  have hblank : (fun p : List Char ↦ !p.all isBlank) ∘ dropReturn = fun p ↦ !p.all isBlank := by
    funext p
    exact congrArg not (Bool.eq_iff_iff.2 (by
      rw [← words_eq_nil_iff, ← words_eq_nil_iff, words_dropReturn]))
  have hfront (front : List (List Char)) :
      ((front.map dropReturn).filter (!·.all isBlank)).map words =
        (front.filter (!·.all isBlank)).map words := by
    rw [List.filter_map, List.map_map, hblank]
    exact List.map_congr_left fun p _ ↦ words_dropReturn p
  obtain ⟨front, last, hpieces⟩ := (List.eq_nil_or_concat (splitAt (· == '\n') cs)).resolve_left
    (splitAt_ne_nil _ _)
  rw [List.concat_eq_append] at hpieces
  rw [lines, hpieces, List.dropLast_concat, List.getLast?_concat, List.filter_append front,
    List.map_append]
  cases last with
  | nil => exact (hfront front).trans (List.append_nil _).symm
  | cons c r =>
    dsimp only
    rw [List.filter_append, List.map_append, hfront]

end Cutting

end RealmDriver.Text
