import Mathlib.Data.List.Infix
import RealmDriver.Proofs.Realm.Markup

namespace RealmDriver.Listing

def volumeStart : List Char := "<volume".toList

/-- A text in which no volume's element begins: every mark of one is the front of a longer word. -/
def IsQuiet (cs : List Char) : Prop := ∀ a b, cs = a ++ volumeStart ++ b → b.head? = some 's'

theorem isQuiet_iff_forall_tails {cs : List Char} :
    IsQuiet cs ↔ ∀ t ∈ cs.tails, volumeStart <+: t → (t.drop volumeStart.length).head? = some 's' := by
  constructor
  · intro h t ht hprefix
    obtain ⟨a, rfl⟩ := (List.mem_tails _ _).1 ht
    obtain ⟨b, rfl⟩ := hprefix
    rw [List.drop_left]
    exact h a b (List.append_assoc _ _ _).symm
  · intro h a b hcs
    have hback : volumeStart ++ b <:+ cs := ⟨a, by rw [hcs, List.append_assoc]⟩
    have hhead := h _ ((List.mem_tails _ _).2 hback) (List.prefix_append _ _)
    rwa [List.drop_left] at hhead

instance (cs : List Char) : Decidable (IsQuiet cs) := decidable_of_iff _ isQuiet_iff_forall_tails.symm

structure Volume where
  id : List Char
  items : List Item
  id_plain : '"' ∉ id ∧ '>' ∉ id

namespace Volume

variable (v : Volume)

def attributes : List Char := " id=\"".toList ++ (v.id ++ ['"'])

def text : List Char := volumeStart ++ (v.attributes ++ '>' :: (written v.items ++ volumeEnd))

def found : Section := ⟨v.attributes, written v.items⟩

end Volume

section Volumes

variable {cs rest : List Char}

theorem IsQuiet.tail {c : Char} (h : IsQuiet (c :: cs)) : IsQuiet cs :=
  fun a b hcs ↦ h (c :: a) b (by rw [hcs]; rfl)

theorem section?_of_not_prefix (h : ¬volumeStart <+: cs) : section? cs = none := by
  have hbehind : behind? "<volume".toList cs = none := by
    rw [behind?, if_neg (by rwa [List.isPrefixOf_iff_prefix])]
  rw [section?, hbehind]
  rfl

theorem section?_joined (h : rest.head? = some 's') : section? (volumeStart ++ rest) = none := by
  have hbehind : behind? "<volume".toList (volumeStart ++ rest) = some rest := behind?_append _ rest
  have hends : Text.endsWord rest = false := by
    obtain ⟨rest, rfl⟩ := List.head?_eq_some_iff.1 h
    exact (by decide : (!Text.isWord 's') = false)
  simp only [section?, hbehind, Option.bind_eq_bind, Option.bind_some, hends, Bool.not_false, if_true]
  rfl

/-- A mark that begins in a text and ends behind it would hold an opening bracket a second time. -/
theorem section?_quiet {c : Char} (hquiet : IsQuiet (c :: cs))
    (hrest : ∀ c ∈ rest.head?, c = '<') : section? (c :: cs ++ rest) = none := by
  by_cases hprefix : volumeStart <+: c :: cs ++ rest
  · rcases List.prefix_or_prefix_of_prefix hprefix (List.prefix_append _ _) with hwithin | hbeyond
    · obtain ⟨b, hb⟩ := hwithin
      have hhead := hquiet [] b hb.symm
      rw [← hb, List.append_assoc]
      refine section?_joined ?_
      obtain ⟨b, rfl⟩ := List.head?_eq_some_iff.1 hhead
      rfl
    · obtain ⟨w, hw⟩ := hbeyond
      have hback : w <+: rest := by rwa [← hw, List.prefix_append_right_inj] at hprefix
      cases w with
      | nil =>
        have hhead := hquiet [] [] (by rw [List.nil_append, List.append_nil, ← hw, List.append_nil])
        cases hhead
      | cons d w =>
        obtain ⟨behind, hbehind⟩ := hback
        have hd : d = '<' := hrest d (by rw [← hbehind]; rfl)
        have htail := congrArg List.tail hw
        have hmem : '<' ∈ volumeStart.tail := htail ▸ List.mem_append_right cs (hd ▸ List.mem_cons_self)
        exact absurd hmem (by decide)
  · exact section?_of_not_prefix hprefix

theorem findAll_section?_quiet (hquiet : IsQuiet cs) (hrest : ∀ c ∈ rest.head?, c = '<') :
    findAll section? 0 (cs ++ rest) = findAll section? 0 rest := by
  induction cs with
  | nil => rfl
  | cons c cs ih =>
    have hnone := section?_quiet hquiet hrest
    rw [List.cons_append] at hnone ⊢
    rw [findAll_none hnone, ih hquiet.tail]

theorem section?_volume (v : Volume) (rest : List Char) : section? (v.text ++ rest) =
    some (v.found, v.text.length) := by
  have htext : v.text ++ rest =
      volumeStart ++ (v.attributes ++ '>' :: (written v.items ++ volumeEnd ++ rest)) := by
    simp [Volume.text]
  have hplain : '>' ∉ v.attributes := by
    simp [Volume.attributes, v.id_plain.2]
  have hends : Text.endsWord (v.attributes ++ '>' :: (written v.items ++ volumeEnd ++ rest)) = true :=
    (by decide : (!Text.isWord ' ') = true)
  have hbehind : behind? "<volume".toList (v.text ++ rest) =
      some (v.attributes ++ '>' :: (written v.items ++ volumeEnd ++ rest)) := by
    rw [htext]
    exact behind?_append volumeStart _
  have hdrop : (v.attributes ++ '>' :: (written v.items ++ volumeEnd ++ rest)).drop
      (v.attributes.length + 1) = written v.items ++ volumeEnd ++ rest := by
    rw [← List.drop_drop, List.drop_left, List.drop_one, List.tail_cons]
  have hbefore : before? "</volume>".toList (written v.items ++ volumeEnd ++ rest) =
      some (written v.items) := before?_written v.items rest
  have hrest : (written v.items ++ volumeEnd ++ rest).drop
      ((written v.items).length + "</volume>".length) = rest := by
    rw [List.append_assoc, ← List.drop_drop, List.drop_left]
    exact List.drop_left
  simp only [section?, hbehind, Option.bind_eq_bind, Option.bind_some, hends, Bool.not_true,
    Bool.false_eq_true, if_false, before?_char hplain, hdrop, hbefore, hrest, List.length_append,
    Nat.add_sub_cancel]
  rfl

theorem id?_attributes (v : Volume) : id? false v.attributes = some v.id := by
  have hbefore : before? ['"'] (v.id ++ ['"']) = some v.id := before?_char v.id_plain.1 []
  have hbehind : behind? "id=\"".toList ('i' :: 'd' :: '=' :: '"' :: (v.id ++ ['"'])) =
      some (v.id ++ ['"']) := behind?_append "id=\"".toList _
  have hspace : behind? "id=\"".toList (' ' :: 'i' :: 'd' :: '=' :: '"' :: (v.id ++ ['"'])) = none :=
    behind?_cons_of_ne _ _ (by decide)
  have hattributes : v.attributes = ' ' :: 'i' :: 'd' :: '=' :: '"' :: (v.id ++ ['"']) := rfl
  have hword : Text.isWord ' ' = false := by decide
  simp only [hattributes, id?, Bool.false_eq_true, if_false, hspace, hword, hbehind, Option.bind_eq_bind,
    Option.bind_none, Option.bind_some, hbefore]
  rfl

/-- A document: volumes with texts around them in which no volume begins. -/
def document (front : List Char) (parts : List (Volume × List Char)) : List Char :=
  front ++ parts.flatMap fun p ↦ p.1.text ++ p.2

theorem findAll_section?_document {front : List Char} {parts : List (Volume × List Char)}
    (hfront : IsQuiet front) (hparts : ∀ p ∈ parts, IsQuiet p.2) :
    findAll section? 0 (document front parts) = parts.map (·.1.found) := by
  induction parts generalizing front with
  | nil =>
    have hnone : ∀ c ∈ ([] : List Char).head?, c = '<' := fun c hc ↦ nomatch hc
    rw [document, List.flatMap_nil, findAll_section?_quiet hfront hnone]
    rfl
  | cons p parts ih =>
    rw [List.forall_mem_cons] at hparts
    have hdocument : document front (p :: parts) = front ++ (p.1.text ++ document p.2 parts) := by
      rw [document, document, List.flatMap_cons, List.append_assoc]
    have hne : p.1.text ≠ [] := List.cons_ne_nil _ _
    have hbegun : ∀ c ∈ (p.1.text ++ document p.2 parts).head?, c = '<' :=
      fun c hc ↦ (Option.some.inj (hc : some '<' = some c)).symm
    rw [hdocument, findAll_section?_quiet hfront hbegun,
      findAll_some hne (section?_volume p.1 _), ih hparts.1 hparts.2, List.map_cons]

end Volumes

end RealmDriver.Listing
