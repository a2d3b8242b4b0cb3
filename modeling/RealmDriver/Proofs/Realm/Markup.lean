import Mathlib.Data.List.TakeWhile
import Mathlib.Tactic.SplitIfs
import RealmDriver.Proofs.Text.Character
import RealmDriver.Realm.Listing

namespace RealmDriver.Listing

section Searching

variable {α : Type} {match? : List Char → Option (α × Nat)} {a b rest : List Char}

theorem findAll_skip (match? : List Char → Option (α × Nat)) (a b : List Char) :
    findAll match? a.length (a ++ b) = findAll match? 0 b := by
  induction a with
  | nil => rfl
  | cons c a ih => exact ih

theorem findAll_none {c : Char} {cs : List Char} (h : match? (c :: cs) = none) :
    findAll match? 0 (c :: cs) = findAll match? 0 cs := by
  rw [findAll, h]

theorem findAll_some {x : α} (hne : a ≠ []) (h : match? (a ++ b) = some (x, a.length)) :
    findAll match? 0 (a ++ b) = x :: findAll match? 0 b := by
  obtain ⟨c, a, rfl⟩ := List.exists_cons_of_ne_nil hne
  rw [List.cons_append] at h ⊢
  rw [findAll, h]
  exact congrArg _ (findAll_skip match? a b)

theorem behind?_append (mark rest : List Char) : behind? mark (mark ++ rest) = some rest := by
  rw [behind?, if_pos (List.isPrefixOf_iff_prefix.2 (List.prefix_append _ _)), List.drop_left]

theorem behind?_cons_of_ne {c d : Char} (mark cs : List Char) (h : c ≠ d) :
    behind? (c :: mark) (d :: cs) = none := by
  rw [behind?, List.isPrefixOf_cons_cons, beq_false_of_ne h, Bool.false_and, if_neg Bool.false_ne_true]

theorem before?_nil (rest mark : List Char) : before? mark (mark ++ rest) = some [] := by
  cases hcs : mark ++ rest with
  | nil => rw [before?, if_pos (by simpa using (List.append_eq_nil_iff.1 hcs).1)]
  | cons c cs =>
    rw [before?, if_pos]
    exact hcs ▸ List.isPrefixOf_iff_prefix.2 (List.prefix_append _ _)

theorem before?_cons {mark : List Char} {c : Char} {cs : List Char} (h : ¬mark <+: c :: cs) :
    before? mark (c :: cs) = (before? mark cs).map (c :: ·) := by
  rw [before?, if_neg (by rwa [List.isPrefixOf_iff_prefix])]

theorem before?_free {p : Char} {ps : List Char} (ha : p ∉ a) (b : List Char) :
    before? (p :: ps) (a ++ b) = (before? (p :: ps) b).map (a ++ ·) := by
  induction a with
  | nil => simp
  | cons c a ih =>
    rw [List.mem_cons, not_or] at ha
    rw [List.cons_append, before?_cons fun h ↦ ha.1 (List.cons_prefix_cons.1 h).1, ih ha.2, Option.map_map]
    rfl

theorem before?_char {p : Char} (ha : p ∉ a) (b : List Char) : before? [p] (a ++ p :: b) = some a := by
  have hnow : before? [p] (p :: b) = some [] := before?_nil b [p]
  rw [before?_free ha, hnow, Option.map_some, List.append_nil]

end Searching

/-- An element that holds only text. Its closing tag has the same name as its opening one. -/
structure Leaf where
  tag : List Char
  attributes : List Char
  content : List Char
  tag_plain : '<' ∉ tag ∧ '>' ∉ tag ∧ '/' ∉ tag
  tag_ne : tag ≠ "volume".toList
  attributes_plain : '<' ∉ attributes ∧ '>' ∉ attributes
  attributes_spaced : ∀ c ∈ attributes.head?, c = ' '
  content_plain : '<' ∉ content

namespace Leaf

variable (l : Leaf)

def text : List Char :=
  '<' :: (l.tag ++ l.attributes ++ '>' :: (l.content ++ '<' :: '/' :: (l.tag ++ ['>'])))

def IsNamed : Prop := name? l.tag = some l.tag

instance : Decidable l.IsNamed := inferInstanceAs (Decidable (name? l.tag = some l.tag))

def element : Element := ⟨String.ofList l.tag, l.content, String.ofList l.tag⟩

end Leaf

section Elements

variable {l : Leaf} {cs rest : List Char}

theorem element?_of_ne {c : Char} (hc : c ≠ '<') : element? (c :: cs) = none := by
  rw [element?, behind?_cons_of_ne _ _ hc.symm]
  rfl

theorem name?_of_not_alphanum {c : Char} (hc : c.isAlphanum = false) : name? (c :: cs) = none := by
  rw [name?, List.takeWhile_cons_of_neg (by simp [hc])]

theorem element?_of_no_name (h : name? cs = none) : element? ('<' :: cs) = none := by
  have hbehind : behind? ['<'] ('<' :: cs) = some cs := behind?_append ['<'] cs
  simp only [element?, hbehind, Option.bind_eq_bind, Option.bind_some, h, Option.bind_none]

theorem element?_close : element? ('<' :: '/' :: cs) = none :=
  element?_of_no_name (name?_of_not_alphanum (by decide))

theorem findAll_element?_free (hcs : '<' ∉ cs) (rest : List Char) :
    findAll element? 0 (cs ++ rest) = findAll element? 0 rest := by
  induction cs with
  | nil => rfl
  | cons c cs ih =>
    rw [List.mem_cons, not_or] at hcs
    rw [List.cons_append, findAll_none (element?_of_ne fun h ↦ hcs.1 h.symm), ih hcs.2]

theorem takeWhile_append_of_head {p : Char → Bool} (h : ∀ c ∈ rest.head?, p c = false) (cs : List Char) :
    (cs ++ rest).takeWhile p = cs.takeWhile p := by
  induction cs with
  | nil =>
    cases rest with
    | nil => rfl
    | cons c rest => exact List.takeWhile_cons_of_neg (by simp [h c rfl])
  | cons c cs ih =>
    rw [List.cons_append, List.takeWhile_cons, List.takeWhile_cons, ih]

theorem takeWhile_ne_append {p : Char} {cs : List Char} (hcs : p ∉ cs) (rest : List Char) :
    (cs ++ p :: rest).takeWhile (· ≠ p) = cs := by
  rw [takeWhile_append_of_head (by simp), List.takeWhile_eq_self_iff]
  exact fun c hc ↦ decide_eq_true fun h ↦ hcs (h ▸ hc)

theorem name?_append (tag : List Char) (h : ∀ c ∈ rest.head?, c.isAlphanum = false) :
    name? (tag ++ rest) = name? tag := by
  rw [name?, takeWhile_append_of_head h, name?]

theorem of_name?_eq {n : List Char} (h : name? cs = some n) :
    n ≠ [] ∧ n = cs.takeWhile Char.isAlphanum := by
  rw [name?] at h
  split at h
  · rename_i htake
    split_ifs at h
    cases h
    exact ⟨List.cons_ne_nil _ _, htake.symm⟩
  · cases h

/-- What is found behind a name depends on what stands behind the closing tag's. -/
theorem element?_of_name {n attributes value close : List Char} (hname : name? cs = some n)
    (hends : Text.endsWord (cs.drop n.length) = true)
    (hcs : cs.drop n.length = attributes ++ '>' :: (value ++ '<' :: '/' :: rest))
    (hattributes : '>' ∉ attributes) (hvalue : '<' ∉ value) (hclose : name? rest = some close) :
    element? ('<' :: cs) = (behind? ['>'] (rest.drop close.length)).map fun r ↦
      (⟨String.ofList n, value, String.ofList close⟩, ('<' :: cs).length - r.length) := by
  have hbehind : behind? ['<'] ('<' :: cs) = some cs := behind?_append ['<'] cs
  have hbefore : before? ['>'] (cs.drop n.length) = some attributes := by
    rw [hcs, before?_char hattributes]
  have hdrop : (cs.drop n.length).drop (attributes.length + 1) = value ++ '<' :: '/' :: rest := by
    rw [hcs, ← List.drop_drop, List.drop_left, List.drop_one, List.tail_cons]
  have htake : (value ++ '<' :: '/' :: rest).takeWhile (· ≠ '<') = value :=
    takeWhile_ne_append hvalue ('/' :: rest)
  have hslash : behind? ['<', '/'] ('<' :: '/' :: rest) = some rest := behind?_append ['<', '/'] rest
  simp only [element?, hbehind, Option.bind_eq_bind, Option.bind_some, hname, hends, hbefore, hdrop, htake,
    List.drop_left, hslash, hclose, Bool.not_true, Bool.false_eq_true, if_false]
  cases behind? ['>'] (rest.drop close.length) with
  | none => rfl
  | some r => rfl

theorem element?_of_joined {n : List Char} (hname : name? cs = some n)
    (hends : Text.endsWord (cs.drop n.length) = false) : element? ('<' :: cs) = none := by
  have hbehind : behind? ['<'] ('<' :: cs) = some cs := behind?_append ['<'] cs
  simp only [element?, hbehind, Option.bind_eq_bind, Option.bind_some, hname, hends, Bool.not_false,
    if_true]
  rfl

theorem text_append (l : Leaf) (rest : List Char) :
    l.text ++ rest = '<' :: (l.tag ++
      (l.attributes ++ '>' :: (l.content ++ '<' :: '/' :: (l.tag ++ '>' :: rest)))) := by
  simp [Leaf.text]

theorem head_behind_tag (l : Leaf) (cs : List Char) :
    ∀ c ∈ (l.attributes ++ '>' :: cs).head?, c = ' ' ∨ c = '>' := by
  intro c hc
  have hspaced := l.attributes_spaced
  cases hattributes : l.attributes with
  | nil =>
    rw [hattributes] at hc
    exact .inr (Option.some.inj hc).symm
  | cons d ds =>
    rw [hattributes] at hc hspaced
    exact .inl ((Option.some.inj hc).symm.trans (hspaced d rfl))

theorem name?_behind_tag (l : Leaf) (cs : List Char) :
    name? (l.tag ++ (l.attributes ++ '>' :: cs)) = name? l.tag := by
  refine name?_append _ fun c hc ↦ ?_
  rcases head_behind_tag l cs c hc with rfl | rfl
  · decide
  · decide

theorem name?_close (l : Leaf) (rest : List Char) : name? (l.tag ++ '>' :: rest) = name? l.tag :=
  name?_append _ fun c hc ↦ by
    cases hc
    decide

theorem element?_leaf (hl : l.IsNamed) (rest : List Char) :
    element? (l.text ++ rest) = some (l.element, l.text.length) := by
  have hends : Text.endsWord (l.attributes ++
      '>' :: (l.content ++ '<' :: '/' :: (l.tag ++ '>' :: rest))) = true := by
    have hhead := head_behind_tag l (l.content ++ '<' :: '/' :: (l.tag ++ '>' :: rest))
    cases hcs : l.attributes ++ '>' :: (l.content ++ '<' :: '/' :: (l.tag ++ '>' :: rest)) with
    | nil => rfl
    | cons c cs =>
      rcases hhead c (by rw [hcs]; rfl) with rfl | rfl
      · exact (by decide : (!Text.isWord ' ') = true)
      · exact (by decide : (!Text.isWord '>') = true)
  have hname := (name?_behind_tag l (l.content ++ '<' :: '/' :: (l.tag ++ '>' :: rest))).trans hl
  have hclose := (name?_close l rest).trans hl
  have hbehind : behind? ['>'] ('>' :: rest) = some rest := behind?_append ['>'] rest
  have hlength : (l.text ++ rest).length - rest.length = l.text.length := by
    rw [List.length_append, Nat.add_sub_cancel]
  rw [text_append] at hlength ⊢
  rw [element?_of_name hname (by rw [List.drop_left]; exact hends) (by rw [List.drop_left])
    l.attributes_plain.2 l.content_plain hclose, List.drop_left, hbehind, Option.map_some, hlength]
  rfl

theorem element?_leaf_of_not (hl : ¬l.IsNamed) (rest : List Char) : element? (l.text ++ rest) = none := by
  have hname := name?_behind_tag l (l.content ++ '<' :: '/' :: (l.tag ++ '>' :: rest))
  rw [text_append]
  cases hn : name? l.tag with
  | none => exact element?_of_no_name (hname.trans hn)
  | some n =>
    obtain ⟨-, htake⟩ := of_name?_eq hn
    have hsplit := l.tag.takeWhile_append_dropWhile (p := Char.isAlphanum)
    rw [← htake] at hsplit
    cases ht : l.tag.dropWhile Char.isAlphanum with
    | nil =>
      rw [ht, List.append_nil] at hsplit
      exact absurd (hn.trans (congrArg some hsplit)) hl
    | cons c t =>
      rw [ht] at hsplit
      have hplain : '>' ∉ c :: t := fun h ↦ l.tag_plain.2.1 (hsplit ▸ List.mem_append_right n h)
      have hdrop (cs : List Char) : (l.tag ++ cs).drop n.length = c :: t ++ cs := by
        rw [← hsplit, List.append_assoc, List.drop_left]
      cases hends : Text.endsWord (c :: t ++ (l.attributes ++
          '>' :: (l.content ++ '<' :: '/' :: (l.tag ++ '>' :: rest)))) with
      | false => exact element?_of_joined (hname.trans hn) (by rw [hdrop, hends])
      | true =>
        -- the closing tag goes on behind the name
        have hc : '>' ≠ c := fun h ↦ hplain (h ▸ List.mem_cons_self)
        have hgoes : behind? ['>'] (c :: t ++ '>' :: rest) = none := behind?_cons_of_ne [] _ hc
        rw [element?_of_name (hname.trans hn) (by rw [hdrop, hends])
          (by rw [hdrop, ← List.append_assoc]) ?_ l.content_plain ((name?_close l rest).trans hn),
          hdrop, hgoes]
        · rfl
        · rw [List.mem_append, not_or]
          exact ⟨hplain, l.attributes_plain.2⟩

end Elements

inductive Item where
  | text (cs : List Char) (plain : '<' ∉ cs)
  | leaf (l : Leaf)

namespace Item

def written : Item → List Char
  | text cs _ => cs
  | leaf l => l.text

def found? : Item → Option Element
  | text _ _ => none
  | leaf l => if l.IsNamed then some l.element else none

end Item

def written (items : List Item) : List Char := items.flatMap Item.written

section Items

theorem written_cons (item : Item) (items : List Item) :
    written (item :: items) = item.written ++ written items := List.flatMap_cons

def Leaf.opening (l : Leaf) : List Char := l.tag ++ (l.attributes ++ '>' :: l.content)

def Leaf.closing (l : Leaf) : List Char := '/' :: (l.tag ++ ['>'])

theorem text_split (l : Leaf) (rest : List Char) :
    l.text ++ rest = '<' :: (l.opening ++ '<' :: (l.closing ++ rest)) := by
  simp [Leaf.text, Leaf.opening, Leaf.closing]

theorem opening_plain (l : Leaf) : '<' ∉ l.opening := by
  simp [Leaf.opening, l.tag_plain.1, l.attributes_plain.1, l.content_plain]

theorem closing_plain (l : Leaf) : '<' ∉ l.closing := by
  simp [Leaf.closing, l.tag_plain.1]

theorem findAll_element?_item (item : Item) (rest : List Char) :
    findAll element? 0 (item.written ++ rest) = item.found?.toList ++ findAll element? 0 rest := by
  cases item with
  | text cs plain => exact findAll_element?_free plain rest
  | leaf l =>
    simp only [Item.written, Item.found?]
    split_ifs with hl
    · have hne : l.text ≠ [] := List.cons_ne_nil _ _
      rw [findAll_some hne (element?_leaf hl rest)]
      rfl
    · have hopening := element?_leaf_of_not hl rest
      have hclosing : element? ('<' :: (l.closing ++ rest)) = none := element?_close
      rw [text_split] at hopening ⊢
      rw [findAll_none hopening, findAll_element?_free (opening_plain l), findAll_none hclosing,
        findAll_element?_free (closing_plain l)]
      rfl

theorem findAll_element?_written (items : List Item) :
    findAll element? 0 (written items) = items.filterMap Item.found? := by
  induction items with
  | nil => rfl
  | cons item items ih =>
    rw [written_cons, findAll_element?_item, ih]
    cases hfound : item.found? with
    | none => rw [List.filterMap_cons_none hfound, Option.toList_none, List.nil_append]
    | some e => rw [List.filterMap_cons_some hfound, Option.toList_some, List.singleton_append]

def volumeEnd : List Char := "</volume>".toList

theorem volumeEnd_eq : volumeEnd = '<' :: '/' :: ("volume".toList ++ ['>']) := by decide

theorem not_prefix_opening (l : Leaf) (cs : List Char) : ¬volumeEnd <+: '<' :: (l.opening ++ cs) := by
  intro h
  rw [volumeEnd_eq] at h
  have hslash := (List.cons_prefix_cons.1 h).2
  cases htag : l.tag with
  | nil =>
    have hhead := head_behind_tag l l.content
    cases hbehind : l.attributes ++ '>' :: l.content with
    | nil => simp at hbehind
    | cons c behind =>
      rw [Leaf.opening, htag, hbehind] at hslash
      have hc : '/' = c := (List.cons_prefix_cons.1 hslash).1
      rcases hhead c (by rw [hbehind]; rfl) with rfl | rfl
      · cases hc
      · cases hc
  | cons c tag =>
    rw [Leaf.opening, htag] at hslash
    have hc : '/' = c := (List.cons_prefix_cons.1 hslash).1
    exact l.tag_plain.2.2 (by rw [htag, hc]; exact List.mem_cons_self)

theorem not_prefix_closing (l : Leaf) (cs : List Char) : ¬volumeEnd <+: '<' :: (l.closing ++ cs) := by
  intro h
  rw [volumeEnd_eq, Leaf.closing, List.cons_append] at h
  obtain ⟨behind, hbehind⟩ := (List.cons_prefix_cons.1 (List.cons_prefix_cons.1 h).2).2
  have htags : "volume".toList ++ '>' :: behind = l.tag ++ '>' :: cs := by
    rwa [List.append_assoc, List.append_assoc] at hbehind
  have hnames := congrArg (List.takeWhile (· ≠ '>')) htags
  rw [takeWhile_ne_append (by decide), takeWhile_ne_append l.tag_plain.2.1] at hnames
  exact l.tag_ne hnames.symm

theorem before?_item (item : Item) (rest : List Char) :
    before? volumeEnd (item.written ++ rest) = (before? volumeEnd rest).map (item.written ++ ·) := by
  cases item with
  | text cs plain => exact before?_free plain rest
  | leaf l =>
    have hclosing : before? volumeEnd (l.closing ++ rest) =
        (before? volumeEnd rest).map (l.closing ++ ·) := before?_free (closing_plain l) rest
    have hopening (cs : List Char) : before? volumeEnd (l.opening ++ cs) =
        (before? volumeEnd cs).map (l.opening ++ ·) := before?_free (opening_plain l) cs
    simp only [Item.written]
    rw [text_split, before?_cons (not_prefix_opening l _), hopening, before?_cons (not_prefix_closing l _),
      hclosing, Option.map_map, Option.map_map, Option.map_map]
    refine congrArg (fun f ↦ Option.map f _) (funext fun cs ↦ ?_)
    exact (text_split l cs).symm

theorem before?_written (items : List Item) (rest : List Char) :
    before? volumeEnd (written items ++ volumeEnd ++ rest) = some (written items) := by
  induction items with
  | nil => exact before?_nil rest volumeEnd
  | cons item items ih =>
    rw [written_cons, List.append_assoc, List.append_assoc, before?_item, ← List.append_assoc, ih,
      Option.map_some]

end Items

end RealmDriver.Listing
