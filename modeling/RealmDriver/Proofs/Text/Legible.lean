import Mathlib.Data.List.Forall2
import RealmDriver.Proofs.Number.Natural
import RealmDriver.Text.Quoted

namespace RealmDriver.Text

open Numeral (isDigit isDigit_of_mem_toDigits)

variable {α β : Type} {same same' : α → α → Prop} {print : α → String} {x y : List Char}

def Ends (x : List Char) : Prop := ∀ c ∈ x.head?, isDigit c = false

theorem ends_cons {c : Char} (hc : isDigit c = false) : Ends (c :: x) := by
  intro d hd
  cases hd
  exact hc

theorem append_inj_of_forall {p : Char → Bool} {cs ds : List Char} (hcs : ∀ c ∈ cs, p c = true)
    (hds : ∀ d ∈ ds, p d = true) (hx : ∀ c ∈ x.head?, p c = false) (hy : ∀ d ∈ y.head?, p d = false)
    (h : cs ++ x = ds ++ y) : cs = ds ∧ x = y := by
  induction cs generalizing ds with
  | nil =>
    cases ds with
    | nil => exact ⟨rfl, h⟩
    | cons d ds =>
      rw [List.nil_append] at h
      exact absurd ((hds d List.mem_cons_self).symm.trans (hx d (by rw [h]; rfl))) (by decide)
  | cons c cs ih =>
    cases ds with
    | nil =>
      rw [List.nil_append] at h
      exact absurd ((hcs c List.mem_cons_self).symm.trans (hy c (by rw [← h]; rfl))) (by decide)
    | cons d ds =>
      rw [List.forall_mem_cons] at hcs hds
      obtain ⟨rfl, hrest⟩ := List.cons.inj h
      obtain ⟨rfl, hxy⟩ := ih hcs.2 hds.2 hrest
      exact ⟨rfl, hxy⟩

/-- What is printed shows just what is not the same, whatever stands behind it but a number. -/
structure Legible (same : α → α → Prop) (print : α → String) : Prop where
  shows : ∀ a b, same a b → print a = print b
  told : ∀ a b x y, Ends x → Ends y → (print a).toList ++ x = (print b).toList ++ y → same a b ∧ x = y

def marked : List (Char × Char) :=
  [('"', '"'), ('\\', '\\'), ('\n', 'n'), ('\r', 'r'), ('\t', 't'), ('\x00', '0')]

theorem quotedChar_cases (c : Char) :
    (∃ e, (c, e) ∈ marked ∧ quotedChar c = ['\\', e]) ∨
    quotedChar c = '\\' :: 'u' :: '\x7b' :: (Nat.toDigits 16 c.toNat ++ ['\x7d']) ∨
    (c ≠ '"' ∧ c ≠ '\\') ∧ quotedChar c = [c] := by
  rw [quotedChar]
  split_ifs with hquote hbackslash hnewline hreturn htab hnul hhidden
  · exact .inl ⟨'"', by simp [hquote, marked], rfl⟩
  · exact .inl ⟨'\\', by simp [hbackslash, marked], rfl⟩
  · exact .inl ⟨'n', by simp [hnewline, marked], rfl⟩
  · exact .inl ⟨'r', by simp [hreturn, marked], rfl⟩
  · exact .inl ⟨'t', by simp [htab, marked], rfl⟩
  · have hc : c = '\x00' := Char.toNat_inj.1 hnul
    exact .inl ⟨'0', by simp [hc, marked], rfl⟩
  · exact .inr (.inl rfl)
  · exact .inr (.inr ⟨⟨hquote, hbackslash⟩, rfl⟩)

theorem of_mem_toDigits {n : Nat} {c : Char} (h : c ∈ Nat.toDigits 16 n) : ∃ d < 16, c = d.digitChar := by
  induction n using Nat.strongRecOn with
  | _ n ih =>
    rw [Nat.toDigits_eq_if (by decide)] at h
    split_ifs at h with hlt
    · exact ⟨n, hlt, List.mem_singleton.1 h⟩
    · rcases List.mem_append.1 h with hfront | hlast
      · exact ih (n / 16) (by omega) hfront
      · exact ⟨n % 16, by omega, List.mem_singleton.1 hlast⟩

theorem digitChar_inj {n m : Nat} (hn : n < 16) (hm : m < 16) (h : n.digitChar = m.digitChar) : n = m := by
  have hall : ∀ i < 16, ∀ j < 16, i.digitChar = j.digitChar → i = j := by decide
  exact hall n hn m hm h

theorem toDigits_inj {n m : Nat} (h : Nat.toDigits 16 n = Nat.toDigits 16 m) : n = m := by
  induction n using Nat.strongRecOn generalizing m with
  | _ n ih =>
    rw [Nat.toDigits_eq_if (by decide), Nat.toDigits_eq_if (n := m) (by decide)] at h
    have hne (k : Nat) : Nat.toDigits 16 k ≠ [] := Nat.toDigits_ne_nil
    split_ifs at h with hn hm hm
    · exact digitChar_inj hn hm (List.singleton_inj.1 h)
    · rw [← List.nil_append [n.digitChar]] at h
      exact absurd (List.append_inj_left' h rfl).symm (hne _)
    · rw [← List.nil_append [m.digitChar]] at h
      exact absurd (List.append_inj_left' h rfl) (hne _)
    · obtain ⟨hfront, hlast⟩ := List.append_inj' h rfl
      have hquotient := ih (n / 16) (by omega) hfront
      have hremainder := digitChar_inj (by omega) (by omega) (List.singleton_inj.1 hlast)
      omega

theorem quotedChar_told {c d : Char} (h : quotedChar c ++ x = quotedChar d ++ y) : c = d ∧ x = y := by
  have hmarked : ∀ p ∈ marked, p.2 ≠ 'u' ∧ ∀ q ∈ marked, p.2 = q.2 → p = q := by decide
  rcases quotedChar_cases c with ⟨e, he, hc⟩ | hc | ⟨hc, hplain⟩ <;>
    rcases quotedChar_cases d with ⟨f, hf, hd⟩ | hd | ⟨hd, hplain'⟩
  · simp only [hc, hd, List.cons_append, List.nil_append, List.cons.injEq, true_and] at h
    have hsame := (hmarked _ he).2 _ hf h.1
    exact ⟨congrArg Prod.fst hsame, h.2⟩
  · simp only [hc, hd, List.cons_append, List.nil_append, List.cons.injEq, true_and] at h
    exact absurd h.1 (hmarked _ he).1
  · simp only [hc, hplain', List.cons_append, List.nil_append, List.cons.injEq] at h
    exact absurd h.1.symm hd.2
  · simp only [hc, hd, List.cons_append, List.nil_append, List.cons.injEq, true_and] at h
    exact absurd h.1.symm (hmarked _ hf).1
  · simp only [hc, hd, List.cons_append, List.append_assoc, List.nil_append, List.cons.injEq, true_and] at h
    have hdigit (n : Nat) : ∀ e ∈ Nat.toDigits 16 n, decide (e ≠ '\x7d') = true := by
      intro e he
      obtain ⟨i, hi, rfl⟩ := of_mem_toDigits he
      have hall : ∀ j < 16, decide (j.digitChar ≠ '\x7d') = true := by decide
      exact hall i hi
    obtain ⟨hdigits, hrest⟩ := append_inj_of_forall (hdigit _) (hdigit _) (by simp) (by simp) h
    exact ⟨Char.toNat_inj.1 (toDigits_inj hdigits), (List.cons.inj hrest).2⟩
  · simp only [hc, hplain', List.cons_append, List.nil_append, List.cons.injEq] at h
    exact absurd h.1.symm hd.2
  · simp only [hplain, hd, List.cons_append, List.nil_append, List.cons.injEq] at h
    exact absurd h.1 hc.2
  · simp only [hplain, hd, List.cons_append, List.nil_append, List.cons.injEq] at h
    exact absurd h.1 hc.2
  · simpa only [hplain, hplain', List.cons_append, List.nil_append, List.cons.injEq] using h

theorem quotedChar_head (c : Char) : ∃ d ds, quotedChar c = d :: ds ∧ d ≠ '"' := by
  rcases quotedChar_cases c with ⟨e, -, hc⟩ | hc | ⟨hc, hplain⟩
  · exact ⟨_, _, hc, by decide⟩
  · exact ⟨_, _, hc, by decide⟩
  · exact ⟨_, _, hplain, hc.1⟩

theorem quotedChars_told {cs ds : List Char}
    (h : cs.flatMap quotedChar ++ '"' :: x = ds.flatMap quotedChar ++ '"' :: y) : cs = ds ∧ x = y := by
  induction cs generalizing ds with
  | nil =>
    cases ds with
    | nil => exact ⟨rfl, (List.cons.inj h).2⟩
    | cons d ds =>
      obtain ⟨e, es, hd, he⟩ := quotedChar_head d
      rw [List.flatMap_nil, List.nil_append, List.flatMap_cons, hd] at h
      exact absurd (List.cons.inj h).1.symm he
  | cons c cs ih =>
    cases ds with
    | nil =>
      obtain ⟨e, es, hc, he⟩ := quotedChar_head c
      rw [List.flatMap_nil, List.nil_append, List.flatMap_cons, hc] at h
      exact absurd (List.cons.inj h).1 he
    | cons d ds =>
      rw [List.flatMap_cons, List.flatMap_cons, List.append_assoc, List.append_assoc] at h
      obtain ⟨rfl, hrest⟩ := quotedChar_told h
      obtain ⟨rfl, hxy⟩ := ih hrest
      exact ⟨rfl, hxy⟩

theorem toList_quoted (s : String) :
    (quoted s).toList = '"' :: (s.toList.flatMap quotedChar ++ ['"']) := by
  rw [quoted, String.toList_ofList]
  rfl

theorem toList_commaSeparated_cons (s : String) (ss : List String) :
    (commaSeparated (s :: ss)).toList = s.toList ++ ss.flatMap fun t ↦ ',' :: ' ' :: t.toList := by
  rw [commaSeparated, String.toList_intercalate]
  induction ss generalizing s with
  | nil => simp
  | cons t ss ih =>
    have hrest := ih t
    rw [List.map_cons] at hrest
    rw [List.map_cons, List.map_cons, List.intercalate_cons_cons, hrest, List.flatMap_cons, List.append_assoc]
    rfl

namespace Legible

variable {a b : α}

theorem eq_iff (h : Legible same print) : print a = print b ↔ same a b := by
  have hnil : Ends [] := fun c hc ↦ absurd hc (Option.not_mem_none c)
  exact ⟨fun heq ↦ (h.told a b [] [] hnil hnil (by rw [heq])).1, h.shows a b⟩

theorem congr (h : Legible same print) (hsame : ∀ a b, same a b ↔ same' a b) : Legible same' print where
  shows a b hab := h.shows a b ((hsame a b).2 hab)
  told a b x y hx hy heq := (h.told a b x y hx hy heq).imp_left (hsame a b).1

theorem comap (f : β → α) (h : Legible same print) :
    Legible (fun a b ↦ same (f a) (f b)) fun a ↦ print (f a) where
  shows a b := h.shows (f a) (f b)
  told a b := h.told (f a) (f b)

theorem const (s : String) : Legible (fun _ _ : α ↦ True) fun _ ↦ s where
  shows _ _ _ := rfl
  told _ _ _ _ _ _ heq := ⟨trivial, List.append_cancel_left heq⟩

theorem prefixed (h : Legible same print) (before : String) : Legible same fun a ↦ before ++ print a where
  shows a b hab := by rw [h.shows a b hab]
  told a b x y hx hy heq := by
    simp only [String.toList_append, List.append_assoc] at heq
    exact h.told a b x y hx hy (List.append_cancel_left heq)

theorem suffixed (h : Legible same print) (after : String) (hafter : ∀ x, Ends (after.toList ++ x)) :
    Legible same fun a ↦ print a ++ after where
  shows a b hab := by rw [h.shows a b hab]
  told a b x y hx hy heq := by
    simp only [String.toList_append, List.append_assoc] at heq
    exact (h.told a b _ _ (hafter x) (hafter y) heq).imp_right List.append_cancel_left

theorem both {same' : α → α → Prop} {print' : α → String} (h : Legible same print)
    (h' : Legible same' print') (between : String) (hbetween : ∀ x, Ends (between.toList ++ x)) :
    Legible (fun a b ↦ same a b ∧ same' a b) fun a ↦ print a ++ between ++ print' a where
  shows a b hab := by rw [h.shows a b hab.1, h'.shows a b hab.2]
  told a b x y hx hy heq := by
    simp only [String.toList_append, List.append_assoc] at heq
    obtain ⟨hab, hrest⟩ := h.told a b _ _ (hbetween _) (hbetween _) heq
    obtain ⟨hab', hxy⟩ := h'.told a b x y hx hy (List.append_cancel_left hrest)
    exact ⟨⟨hab, hab'⟩, hxy⟩

theorem quoted : Legible Eq quoted where
  shows _ _ := congrArg _
  told a b x y _ _ heq := by
    rw [toList_quoted, toList_quoted, List.cons_append, List.cons_append, List.append_assoc,
      List.append_assoc] at heq
    obtain ⟨hab, hxy⟩ := quotedChars_told (List.cons.inj heq).2
    exact ⟨String.toList_inj.1 hab, hxy⟩

theorem nat : Legible Eq (toString : Nat → String) where
  shows _ _ := congrArg _
  told a b x y hx hy heq := by
    have htext (n : Nat) : (toString n).toList = Nat.toDigits 10 n := String.toList_ofList
    rw [htext, htext] at heq
    obtain ⟨hab, hxy⟩ := append_inj_of_forall (fun c ↦ isDigit_of_mem_toDigits)
      (fun d ↦ isDigit_of_mem_toDigits) hx hy heq
    exact ⟨Numeral.toDigits_inj.1 hab, hxy⟩

theorem bool : Legible Eq (toString : Bool → String) where
  shows _ _ := congrArg _
  told a b x y _ _ heq := by
    cases a <;> cases b
    · exact ⟨rfl, List.append_cancel_left heq⟩
    · exact absurd (List.cons.inj heq).1 (by decide)
    · exact absurd (List.cons.inj heq).1 (by decide)
    · exact ⟨rfl, List.append_cancel_left heq⟩

theorem minus_ne_toDigits (n : Nat) : '-' :: x ≠ Nat.toDigits 10 n ++ y := by
  obtain ⟨c, cs, hcs⟩ := List.exists_cons_of_ne_nil (Nat.toDigits_ne_nil (n := n) (b := 10))
  have hdigit : isDigit c = true := isDigit_of_mem_toDigits (n := n) (by rw [hcs]; exact List.mem_cons_self)
  rw [hcs, List.cons_append]
  intro h
  rw [← (List.cons.inj h).1] at hdigit
  exact absurd hdigit (by decide)

theorem int : Legible Eq (toString : Int → String) where
  shows _ _ := congrArg _
  told a b x y hx hy heq := by
    have hdigits {n m : Nat} (h : Nat.toDigits 10 n ++ x = Nat.toDigits 10 m ++ y) : n = m ∧ x = y :=
      (append_inj_of_forall (fun c ↦ isDigit_of_mem_toDigits) (fun d ↦ isDigit_of_mem_toDigits)
        hx hy h).imp_left Numeral.toDigits_inj.1
    rcases lt_or_ge a 0 with ha | ha <;> rcases lt_or_ge b 0 with hb | hb
    · rw [Numeral.toList_toString_neg ha, Numeral.toList_toString_neg hb] at heq
      obtain ⟨hab, hxy⟩ := hdigits (List.cons.inj heq).2
      exact ⟨by omega, hxy⟩
    · rw [Numeral.toList_toString_neg ha, Numeral.toList_toString_nonneg hb] at heq
      exact absurd heq (minus_ne_toDigits _)
    · rw [Numeral.toList_toString_nonneg ha, Numeral.toList_toString_neg hb] at heq
      exact absurd heq.symm (minus_ne_toDigits _)
    · rw [Numeral.toList_toString_nonneg ha, Numeral.toList_toString_nonneg hb] at heq
      obtain ⟨hab, hxy⟩ := hdigits heq
      exact ⟨by omega, hxy⟩

theorem option (h : Legible same print) : Legible (Option.Rel same) (printedOption print) where
  shows a b hab := by
    cases hab with
    | none => rfl
    | some hab => rw [printedOption, printedOption, h.shows _ _ hab]
  told a b x y hx hy heq := by
    cases a with
    | none =>
      cases b with
      | none => exact ⟨.none, List.append_cancel_left heq⟩
      | some b =>
        simp only [printedOption, String.toList_append] at heq
        exact absurd (List.cons.inj heq).1 (by decide)
    | some a =>
      cases b with
      | none =>
        simp only [printedOption, String.toList_append] at heq
        exact absurd (List.cons.inj heq).1 (by decide)
      | some b =>
        have hparen : ∀ x, Ends (")".toList ++ x) := fun x ↦ ends_cons (by decide)
        obtain ⟨hab, hxy⟩ := ((h.prefixed "Some(").suffixed ")" hparen).told a b x y hx hy heq
        exact ⟨.some hab, hxy⟩

theorem optionEq {print : α → String} (h : Legible Eq print) : Legible Eq (printedOption print) := by
  refine h.option.congr fun a b ↦ ?_
  cases a <;> cases b <;> simp

theorem quotedBy {text : α → String} (h : ∀ a b, text a = text b → a = b) :
    Legible Eq fun a ↦ Text.quoted (text a) :=
  (Legible.quoted.comap text).congr fun a b ↦ ⟨h a b, congrArg text⟩

theorem told_separated (h : Legible same print) {close : Char} (hcomma : close ≠ ',')
    (hdigit : isDigit close = false) (hhead : ∀ a, ∃ c cs, (print a).toList = c :: cs ∧ c ≠ close)
    {as bs : List α}
    (heq : (commaSeparated (as.map print)).toList ++ close :: x =
      (commaSeparated (bs.map print)).toList ++ close :: y) : List.Forall₂ same as bs ∧ x = y := by
  have hends (ss : List String) (x : List Char) :
      Ends ((ss.flatMap fun t ↦ ',' :: ' ' :: t.toList) ++ close :: x) := by
    cases ss with
    | nil => exact ends_cons hdigit
    | cons s ss => exact ends_cons (by decide)
  -- the items behind the first one, each behind a comma
  have hbehind : ∀ as bs : List α,
      ((as.map print).flatMap fun t ↦ ',' :: ' ' :: t.toList) ++ close :: x =
        ((bs.map print).flatMap fun t ↦ ',' :: ' ' :: t.toList) ++ close :: y →
      List.Forall₂ same as bs ∧ x = y := by
    intro as
    induction as with
    | nil =>
      intro bs heq
      cases bs with
      | nil => exact ⟨.nil, (List.cons.inj heq).2⟩
      | cons b bs => exact absurd (List.cons.inj heq).1 hcomma
    | cons a as ih =>
      intro bs heq
      cases bs with
      | nil => exact absurd (List.cons.inj heq).1.symm hcomma
      | cons b bs =>
        simp only [List.map_cons, List.flatMap_cons, List.cons_append, List.append_assoc, List.cons.injEq,
          true_and] at heq
        obtain ⟨hab, hrest⟩ := h.told a b _ _ (hends _ _) (hends _ _) heq
        obtain ⟨hsame, hxy⟩ := ih bs hrest
        exact ⟨.cons hab hsame, hxy⟩
  cases as with
  | nil =>
    cases bs with
    | nil => exact ⟨.nil, (List.cons.inj heq).2⟩
    | cons b bs =>
      obtain ⟨c, cs, hb, hc⟩ := hhead b
      rw [List.map_cons, toList_commaSeparated_cons, hb] at heq
      exact absurd (List.cons.inj heq).1.symm hc
  | cons a as =>
    cases bs with
    | nil =>
      obtain ⟨c, cs, ha, hc⟩ := hhead a
      rw [List.map_cons, toList_commaSeparated_cons, ha] at heq
      exact absurd (List.cons.inj heq).1 hc
    | cons b bs =>
      rw [List.map_cons, List.map_cons, toList_commaSeparated_cons, toList_commaSeparated_cons,
        List.append_assoc, List.append_assoc] at heq
      obtain ⟨hab, hrest⟩ := h.told a b _ _ (hends _ _) (hends _ _) heq
      obtain ⟨hsame, hxy⟩ := hbehind as bs hrest
      exact ⟨.cons hab hsame, hxy⟩

theorem map_congr (h : Legible same print) {as bs : List α} (hab : List.Forall₂ same as bs) :
    as.map print = bs.map print := by
  induction hab with
  | nil => rfl
  | cons hhead _ ih => rw [List.map_cons, List.map_cons, h.shows _ _ hhead, ih]

theorem list (h : Legible same print) (hhead : ∀ a, ∃ c cs, (print a).toList = c :: cs ∧ c ≠ ']') :
    Legible (List.Forall₂ same) (printedList print) where
  shows as bs hab := by rw [printedList, printedList, h.map_congr hab]
  told as bs x y hx hy heq := by
    simp only [printedList, String.toList_append, List.append_assoc] at heq
    have hitems : (commaSeparated (as.map print)).toList ++ ']' :: x =
        (commaSeparated (bs.map print)).toList ++ ']' :: y := List.append_cancel_left heq
    exact h.told_separated (by decide) (by decide) hhead hitems

theorem entries (item : α → String × String)
    (h : Legible same fun a ↦ Text.quoted (item a).1 ++ ": " ++ (item a).2) :
    Legible (List.Forall₂ same) fun as ↦ printedEntries (as.map item) where
  shows as bs hab := by
    have hitems := h.map_congr hab
    simp only [printedEntries, List.map_map, Function.comp_def]
    rw [hitems]
  told as bs x y hx hy heq := by
    let shown (a : α) : String := Text.quoted (item a).1 ++ ": " ++ (item a).2
    simp only [printedEntries, List.map_map, Function.comp_def, String.toList_append, List.append_assoc] at heq
    have hitems : (commaSeparated (as.map shown)).toList ++ '\x7d' :: x =
        (commaSeparated (bs.map shown)).toList ++ '\x7d' :: y := List.append_cancel_left heq
    have hhead (a : α) : ∃ c cs, (shown a).toList = c :: cs ∧ c ≠ '\x7d' := by
      simp only [shown, String.append_assoc, String.toList_append, toList_quoted, List.cons_append]
      exact ⟨_, _, rfl, by decide⟩
    exact h.told_separated (by decide) (by decide) hhead hitems

end Legible

structure ShownField (α : Type) where
  label : String
  print : α → String
  same : α → α → Prop
  legible : Legible same print

namespace ShownField

def of (label : String) (h : Legible same print) (f : β → α) : ShownField β :=
  ⟨label, fun b ↦ print (f b), fun b b' ↦ same (f b) (f b'), h.comap f⟩

@[simp]
theorem of_same (label : String) (h : Legible same print) (f : β → α) (b b' : β) :
    (of label h f).same b b' ↔ same (f b) (f b') := .rfl

def text (a : α) (f : ShownField α) : String × String := (f.label, f.print a)

def shown (a : α) (f : ShownField α) : String := f.label ++ ": " ++ f.print a

theorem legible_shown (f : ShownField α) : Legible f.same (shown · f) := f.legible.prefixed (f.label ++ ": ")

theorem printedRecord_eq (name : String) (fields : List (ShownField α)) (a : α) :
    printedRecord name (fields.map (text a)) =
      name ++ " \x7b " ++ commaSeparated (fields.map (shown a)) ++ " \x7d" := by
  rw [printedRecord, List.map_map]
  rfl

def behind (a : α) (fields : List (ShownField α)) : List Char :=
  (fields.map (shown a)).flatMap fun t ↦ ',' :: ' ' :: t.toList

theorem ends_behind (a : α) (fields : List (ShownField α)) (hx : Ends x) : Ends (behind a fields ++ x) := by
  cases fields with
  | nil => exact hx
  | cons f fields => exact ends_cons (by decide)

theorem told_behind {fields : List (ShownField α)} {a b : α} (hx : Ends x) (hy : Ends y)
    (heq : behind a fields ++ x = behind b fields ++ y) : (∀ f ∈ fields, f.same a b) ∧ x = y := by
  induction fields with
  | nil => exact ⟨by simp, heq⟩
  | cons f fields ih =>
    simp only [behind, List.map_cons, List.flatMap_cons, List.cons_append, List.append_assoc,
      List.cons.injEq, true_and] at heq
    obtain ⟨hf, hrest⟩ :=
      f.legible_shown.told a b _ _ (ends_behind a fields hx) (ends_behind b fields hy) heq
    obtain ⟨hfields, hxy⟩ := ih hrest
    exact ⟨List.forall_mem_cons.2 ⟨hf, hfields⟩, hxy⟩

end ShownField

/-- A record shows of its fields what they show. -/
theorem Legible.record (name : String) (fields : List (ShownField α)) :
    Legible (fun a b ↦ ∀ f ∈ fields, f.same a b)
      fun a ↦ printedRecord name (fields.map (ShownField.text a)) where
  shows a b hab := by
    have hfields : fields.map (ShownField.text a) = fields.map (ShownField.text b) :=
      List.map_congr_left fun f hf ↦ Prod.ext rfl (f.legible.shows a b (hab f hf))
    rw [hfields]
  told a b x y hx hy heq := by
    rw [ShownField.printedRecord_eq, ShownField.printedRecord_eq] at heq
    simp only [String.toList_append, List.append_assoc] at heq
    have hfields := List.append_cancel_left (List.append_cancel_left heq)
    have hclose (x : List Char) : Ends (" \x7d".toList ++ x) := ends_cons (by decide)
    cases fields with
    | nil => exact ⟨by simp, List.append_cancel_left hfields⟩
    | cons f fields =>
      rw [List.map_cons, List.map_cons, toList_commaSeparated_cons, toList_commaSeparated_cons,
        List.append_assoc, List.append_assoc] at hfields
      obtain ⟨hf, hrest⟩ := f.legible_shown.told a b _ _ (ShownField.ends_behind a fields (hclose x))
        (ShownField.ends_behind b fields (hclose y)) hfields
      obtain ⟨hall, hxy⟩ := ShownField.told_behind (hclose x) (hclose y) hrest
      exact ⟨List.forall_mem_cons.2 ⟨hf, hall⟩, List.append_cancel_left hxy⟩

end RealmDriver.Text
