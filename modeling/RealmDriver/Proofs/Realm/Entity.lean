import RealmDriver.Proofs.Text.Blank
import RealmDriver.Realm.Listing

namespace RealmDriver.Listing

section Replacing

variable {pattern replacement w rest : List Char} {p : Char}

theorem go_skip (w rest : List Char) :
    replaceAll.go pattern replacement w.length (w ++ rest) = replaceAll pattern replacement rest := by
  induction w with
  | nil => rfl
  | cons c w ih => exact ih

theorem replaceAll_match (hpattern : pattern ≠ []) (rest : List Char) :
    replaceAll pattern replacement (pattern ++ rest) =
      replacement ++ replaceAll pattern replacement rest := by
  obtain ⟨p, ps, rfl⟩ := List.exists_cons_of_ne_nil hpattern
  have hprefix : (p :: ps).isPrefixOf (p :: (ps ++ rest)) = true :=
    List.isPrefixOf_iff_prefix.2 (List.prefix_append (p :: ps) rest)
  rw [List.cons_append, replaceAll, replaceAll.go, if_pos hprefix]
  exact congrArg _ (go_skip ps rest)

theorem replaceAll_cons {c : Char} (h : pattern.isPrefixOf (c :: rest) = false) :
    replaceAll pattern replacement (c :: rest) = c :: replaceAll pattern replacement rest := by
  rw [replaceAll, replaceAll.go, if_neg (Bool.eq_false_iff.1 h)]
  rfl

theorem replaceAll_free {ps : List Char} (hw : p ∉ w) (rest : List Char) :
    replaceAll (p :: ps) replacement (w ++ rest) = w ++ replaceAll (p :: ps) replacement rest := by
  induction w with
  | nil => rfl
  | cons c w ih =>
    rw [List.mem_cons, not_or] at hw
    have hfirst : (p :: ps).isPrefixOf (c :: (w ++ rest)) = false := by
      rw [List.isPrefixOf_cons_cons, beq_false_of_ne hw.1, Bool.false_and]
    rw [List.cons_append, replaceAll_cons hfirst, ih hw.2, List.cons_append]

end Replacing

def escapedChar (table : List (String × Char)) (c : Char) : List Char :=
  match table.find? (·.2 = c) with
  | some e => e.1.toList
  | none => [c]

def escaped (table : List (String × Char)) (cs : List Char) : List Char := cs.flatMap (escapedChar table)

def escape (cs : List Char) : List Char := escaped entities cs

section Escaping

variable {table : List (String × Char)} {e : String × Char} {cs : List Char}

theorem escaped_cons (table : List (String × Char)) (c : Char) (cs : List Char) :
    escaped table (c :: cs) = escapedChar table c ++ escaped table cs := List.flatMap_cons

theorem escaped_nil (cs : List Char) : escaped [] cs = cs := by
  induction cs with
  | nil => rfl
  | cons c cs ih =>
    rw [escaped_cons, ih]
    rfl

/-- A table of which no entity can be mistaken for another. The ampersand, with which all of them begin, is
taken out last. -/
structure IsTable (table : List (String × Char)) : Prop where
  begun : ∀ e ∈ table, e.1.toList.head? = some '&' ∧ '&' ∉ e.1.toList.tail
  last : ∀ e ∈ table.getLast?, e.2 = '&'
  apart : table.Pairwise fun e e' ↦
    e.2 ≠ e'.2 ∧ ¬e.1.toList <+: e'.1.toList ∧ ¬e'.1.toList <+: e.1.toList

theorem isTable_entities : IsTable entities := ⟨by decide, by decide, by decide⟩

theorem IsTable.tail (h : IsTable (e :: table)) : IsTable table where
  begun e' he' := h.begun e' (List.mem_cons_of_mem _ he')
  last e' he' := h.last e' (by rw [List.getLast?_cons, he', Option.getD_some]; rfl)
  apart := (List.pairwise_cons.1 h.apart).2

theorem IsTable.exists_tail (h : IsTable table) (he : e ∈ table) :
    ∃ w, e.1.toList = '&' :: w ∧ '&' ∉ w := by
  obtain ⟨hhead, hfree⟩ := h.begun e he
  obtain ⟨w, hw⟩ := List.head?_eq_some_iff.1 hhead
  exact ⟨w, hw, by simpa [hw] using hfree⟩

theorem IsTable.exists_ampersand (h : IsTable (e :: table)) : ∃ e' ∈ e :: table, e'.2 = '&' :=
  ⟨_, List.getLast_mem (List.cons_ne_nil e table),
    h.last _ (List.getLast?_eq_some_getLast (List.cons_ne_nil e table))⟩

theorem escapedChar_cons_of_ne {c : Char} (hc : e.2 ≠ c) :
    escapedChar (e :: table) c = escapedChar table c := by
  rw [escapedChar, escapedChar, List.find?_cons_of_neg (by simpa using hc)]

theorem replaceAll_later (htable : IsTable (e :: table)) {e' : String × Char} (he' : e' ∈ table)
    (rest : List Char) : replaceAll e.1.toList [e.2] (e'.1.toList ++ rest) =
      e'.1.toList ++ replaceAll e.1.toList [e.2] rest := by
  obtain ⟨w, hw, -⟩ := htable.exists_tail List.mem_cons_self
  obtain ⟨w', hw', hfree⟩ := htable.exists_tail (List.mem_cons_of_mem _ he')
  obtain ⟨-, hfirst, hlater⟩ := (List.pairwise_cons.1 htable.apart).1 e' he'
  have hno : e.1.toList.isPrefixOf (e'.1.toList ++ rest) = false := by
    rw [Bool.eq_false_iff, Ne, List.isPrefixOf_iff_prefix]
    intro hprefix
    exact (List.prefix_or_prefix_of_prefix hprefix (List.prefix_append _ _)).elim hfirst hlater
  simp only [hw', List.cons_append] at hno ⊢
  rw [replaceAll_cons hno, hw, replaceAll_free hfree]

/-- Taking out one kind of entity leaves the text with the others. -/
theorem replaceAll_escaped (htable : IsTable (e :: table)) (cs : List Char) :
    replaceAll e.1.toList [e.2] (escaped (e :: table) cs) = escaped table cs := by
  obtain ⟨w, hw, -⟩ := htable.exists_tail List.mem_cons_self
  have hapart := (List.pairwise_cons.1 htable.apart).1
  induction cs with
  | nil => rfl
  | cons c cs ih =>
    rw [escaped_cons, escaped_cons]
    by_cases hc : e.2 = c
    -- the entity's own character, which no later entity stands for
    · have hcode : escapedChar (e :: table) c = e.1.toList := by
        rw [escapedChar, List.find?_cons_of_pos (by simpa using hc)]
      have hplain : escapedChar table c = [c] := by
        rw [escapedChar, List.find?_eq_none.2 fun e' he' ↦ by simpa [← hc] using (hapart e' he').1.symm]
      rw [hcode, hplain, replaceAll_match (by simp [hw]), ih, hc]
    · rw [escapedChar_cons_of_ne hc, escapedChar]
      cases hfind : table.find? (·.2 = c) with
      | some e' =>
        dsimp only
        rw [replaceAll_later htable (List.mem_of_find?_eq_some hfind), ih]
      | none =>
        -- a character without an entity is no ampersand, with which all of them begin
        have hplain : '&' ∉ [c] := by
          intro hand
          obtain ⟨e', he', hand'⟩ := htable.exists_ampersand
          have hc' : e'.2 = c := hand'.trans (List.mem_singleton.1 hand)
          rcases List.mem_cons.1 he' with rfl | he'
          · exact hc hc'
          · exact absurd hc' (by simpa using List.find?_eq_none.1 hfind e' he')
        simp only [hw, replaceAll_free hplain]
        rw [← hw, ih]

theorem foldl_replaceAll_escaped (htable : IsTable table) (cs : List Char) :
    table.foldl (fun cs e ↦ replaceAll e.1.toList [e.2] cs) (escaped table cs) = cs := by
  induction table with
  | nil => exact escaped_nil cs
  | cons e table ih => rw [List.foldl_cons, replaceAll_escaped htable, ih htable.tail]

theorem escapedChar_ends (c : Char) : escapedChar entities c = [c] ∨
    ∃ w, escapedChar entities c = '&' :: (w ++ [';']) := by
  rw [escapedChar]
  cases hfind : entities.find? (·.2 = c) with
  | none => exact .inl rfl
  | some e =>
    have hends : ∀ e ∈ entities, e.1.toList = '&' :: (e.1.toList.tail.dropLast ++ [';']) := by decide
    exact .inr ⟨_, hends e (List.mem_of_find?_eq_some hfind)⟩

theorem isTrimmed_escape {cs : List Char} (h : Text.IsTrimmed cs) : Text.IsTrimmed (escape cs) := by
  constructor
  · cases cs with
    | nil => exact fun c hc ↦ nomatch hc
    | cons c cs =>
      rw [escape, escaped_cons]
      rcases escapedChar_ends c with hc | ⟨w, hw⟩
      · rw [hc]
        exact h.head
      · rw [hw]
        intro d hd
        cases hd
        decide
  · rcases List.eq_nil_or_concat cs with rfl | ⟨front, c, rfl⟩
    · exact fun c hc ↦ nomatch hc
    · rw [List.concat_eq_append] at h ⊢
      rw [escape, escaped, List.flatMap_append, List.flatMap_singleton]
      rcases escapedChar_ends c with hc | ⟨w, hw⟩
      · have hlast := h.last
        rw [List.getLast?_concat] at hlast
        rw [hc, List.getLast?_concat]
        exact hlast
      · rw [hw, ← List.cons_append, ← List.append_assoc, List.getLast?_concat]
        intro d hd
        cases hd
        decide

theorem escape_of_plain {cs : List Char} (h : ∀ c ∈ cs, ∀ e ∈ entities, e.2 ≠ c) : escape cs = cs := by
  induction cs with
  | nil => rfl
  | cons c cs ih =>
    rw [List.forall_mem_cons] at h
    have hc : escapedChar entities c = [c] := by
      rw [escapedChar, List.find?_eq_none.2 fun e he ↦ by simpa using h.1 e he]
    rw [escape] at ih ⊢
    rw [escaped_cons, hc, ih h.2, List.singleton_append]

/-- A text that is written with entities is read as it was. -/
theorem unescape_escape {cs : List Char} (h : Text.IsTrimmed cs) : unescape (escape cs) = cs := by
  rw [unescape, (isTrimmed_escape h).trimStart, (isTrimmed_escape h).trimEnd, escape,
    foldl_replaceAll_escaped isTable_entities]

end Escaping

end RealmDriver.Listing
