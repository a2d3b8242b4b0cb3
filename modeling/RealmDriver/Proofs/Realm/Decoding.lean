import RealmDriver.Proofs.Realm.Entity

namespace RealmDriver.Listing

/-- A text with its entities read once. What an entity stands for is not looked at again, and everything
else stands for itself. -/
def decoded : List Char → List Char
  | [] => []
  | '&' :: 'l' :: 't' :: ';' :: cs => '<' :: decoded cs
  | '&' :: 'g' :: 't' :: ';' :: cs => '>' :: decoded cs
  | '&' :: 'q' :: 'u' :: 'o' :: 't' :: ';' :: cs => '"' :: decoded cs
  | '&' :: 'a' :: 'p' :: 'o' :: 's' :: ';' :: cs => Char.ofNat 0x27 :: decoded cs
  | '&' :: 'a' :: 'm' :: 'p' :: ';' :: cs => '&' :: decoded cs
  | c :: cs => c :: decoded cs

inductive Decodes (table : List (String × Char)) : List Char → List Char → Prop
  | nil : Decodes table [] []
  | entity {e : String × Char} {cs ds : List Char} (he : e ∈ table) (h : Decodes table cs ds) :
      Decodes table (e.1.toList ++ cs) (e.2 :: ds)
  | copy {c : Char} {cs ds : List Char} (hno : ∀ e ∈ table, ¬e.1.toList <+: c :: cs)
      (h : Decodes table cs ds) : Decodes table (c :: cs) (c :: ds)

theorem decodes_decoded (cs : List Char) : Decodes entities cs (decoded cs) := by
  induction cs using decoded.induct with
  | case1 => exact .nil
  | case2 cs ih => exact .entity (e := ("&lt;", '<')) (by decide) ih
  | case3 cs ih => exact .entity (e := ("&gt;", '>')) (by decide) ih
  | case4 cs ih => exact .entity (e := ("&quot;", '"')) (by decide) ih
  | case5 cs ih => exact .entity (e := ("&apos;", Char.ofNat 0x27)) (by decide) ih
  | case6 cs ih => exact .entity (e := ("&amp;", '&')) (by decide) ih
  | case7 c cs hlt hgt hquot hapos hamp ih =>
    rw [decoded.eq_7 c cs hlt hgt hquot hapos hamp]
    refine .copy (fun e he hbegin ↦ ?_) ih
    obtain ⟨rest, hrest⟩ := hbegin
    simp only [entities, List.mem_cons, List.not_mem_nil, or_false] at he
    obtain rfl | rfl | rfl | rfl | rfl := he
    · exact hlt rest (List.cons.inj hrest).1.symm (List.cons.inj hrest).2.symm
    · exact hgt rest (List.cons.inj hrest).1.symm (List.cons.inj hrest).2.symm
    · exact hquot rest (List.cons.inj hrest).1.symm (List.cons.inj hrest).2.symm
    · exact hapos rest (List.cons.inj hrest).1.symm (List.cons.inj hrest).2.symm
    · exact hamp rest (List.cons.inj hrest).1.symm (List.cons.inj hrest).2.symm

theorem Decodes.eq_of_nil {cs ds : List Char} (h : Decodes [] cs ds) : cs = ds := by
  induction h with
  | nil => rfl
  | entity he => cases he
  | copy _ _ ih => rw [ih]

section Taking

variable {table : List (String × Char)} {e : String × Char} {cs ds : List Char}

theorem prefix_of_prefix_replaceAll {pattern w cs : List Char} {r : Char} (hr : r ∉ w)
    (h : w <+: replaceAll pattern [r] cs) : w <+: cs := by
  induction w generalizing cs with
  | nil => exact List.nil_prefix
  | cons d w ih =>
    rw [List.mem_cons, not_or] at hr
    cases cs with
    | nil => exact absurd (List.prefix_nil.1 h) (List.cons_ne_nil d w)
    | cons c cs =>
      cases hmatch : pattern.isPrefixOf (c :: cs) with
      | true =>
        rw [replaceAll, replaceAll.go, if_pos hmatch, List.singleton_append, List.cons_prefix_cons] at h
        exact absurd h.1.symm hr.1
      | false =>
        rw [replaceAll_cons hmatch, List.cons_prefix_cons] at h
        exact List.cons_prefix_cons.2 ⟨h.1, ih hr.2 h.2⟩

/-- The first kind of entity can be taken out before the pass over the text with the others. -/
theorem Decodes.replaceAll (htable : IsTable (e :: table)) (hfresh : ∀ e' ∈ table, e.2 ∉ e'.1.toList)
    (h : Decodes (e :: table) cs ds) : Decodes table (replaceAll e.1.toList [e.2] cs) ds := by
  induction h with
  | nil => exact .nil
  | @entity e' cs ds he' _ ih =>
    obtain rfl | he' := List.mem_cons.1 he'
    · obtain ⟨w, hw, -⟩ := htable.exists_tail List.mem_cons_self
      rw [replaceAll_match (by simp [hw])]
      refine .copy (fun later hlater hbegin ↦ hfresh later hlater ?_) ih
      obtain ⟨w', hw', -⟩ := htable.exists_tail (List.mem_cons_of_mem _ hlater)
      rw [hw'] at hbegin ⊢
      rw [(List.cons_prefix_cons.1 hbegin).1]
      exact List.mem_cons_self
    · rw [replaceAll_later htable he']
      exact .entity he' ih
  | @copy c cs ds hno _ ih =>
    rw [List.forall_mem_cons] at hno
    rw [replaceAll_cons (Bool.eq_false_iff.2 fun h ↦ hno.1 (List.isPrefixOf_iff_prefix.1 h))]
    -- a later entity that begins here now would have begun here before
    refine .copy (fun later hlater hbegin ↦ hno.2 later hlater ?_) ih
    have hfree := hfresh later hlater
    obtain ⟨w, hw, -⟩ := htable.exists_tail (List.mem_cons_of_mem _ hlater)
    rw [hw, List.mem_cons, not_or] at hfree
    rw [hw, List.cons_prefix_cons] at hbegin ⊢
    exact ⟨hbegin.1, prefix_of_prefix_replaceAll hfree.2 hbegin.2⟩

theorem Decodes.foldl_replaceAll (htable : IsTable table)
    (hfresh : table.Pairwise fun e e' ↦ e.2 ∉ e'.1.toList) (h : Decodes table cs ds) :
    table.foldl (fun cs e ↦ Listing.replaceAll e.1.toList [e.2] cs) cs = ds := by
  induction table generalizing cs with
  | nil => exact h.eq_of_nil
  | cons e table ih =>
    rw [List.pairwise_cons] at hfresh
    rw [List.foldl_cons]
    exact ih htable.tail hfresh.2 (h.replaceAll htable hfresh.1)

theorem escape_of_blank {gap : List Char} (hgap : ∀ c ∈ gap, Text.isBlank c = true) :
    escape gap = gap := by
  have hentities : ∀ e ∈ entities, Text.isBlank e.2 = false := by decide
  refine escape_of_plain fun c hc e he hec ↦ ?_
  have hblank := hgap c hc
  rw [← hec, hentities e he] at hblank
  cases hblank

theorem escape_append (cs ds : List Char) : escape (cs ++ ds) = escape cs ++ escape ds :=
  List.flatMap_append

theorem trim_escape (cs : List Char) : Text.trimEnd (Text.trimStart (escape cs)) =
    escape (Text.trimEnd (Text.trimStart cs)) := by
  obtain ⟨before, after, hcs, hblank⟩ := Text.exists_eq_append_trim (String.ofList cs)
  have htrimmed := Text.isTrimmed_trim (String.ofList cs)
  simp only [Text.trim, String.toList_ofList] at hcs htrimmed
  generalize Text.trimEnd (Text.trimStart cs) = core at hcs htrimmed ⊢
  have hgaps := List.forall_mem_append.1 hblank
  rw [hcs, escape_append, escape_append, escape_of_blank hgaps.1, escape_of_blank hgaps.2,
    Text.trim_of_padded hblank (isTrimmed_escape htrimmed)]

end Taking

/-- **Entities are read once.** To take them out one kind after the other comes to a single pass from the
left over the trimmed text, and so a text that is written with entities is read as it was, but for the
blanks around it. -/
theorem unescape_reads_once (cs : List Char) :
    unescape cs = decoded (Text.trimEnd (Text.trimStart cs)) ∧
      unescape (escape cs) = Text.trimEnd (Text.trimStart cs) := by
  constructor
  · exact (decodes_decoded _).foldl_replaceAll isTable_entities (by decide)
  · rw [unescape, trim_escape, escape, foldl_replaceAll_escaped isTable_entities]

/-- What is left of an entity is no entity again. -/
example : unescape "&amp;lt;".toList = "&lt;".toList := by decide

end RealmDriver.Listing
