import RealmDriver.Proofs.Machine
import RealmDriver.Text.Shell

namespace RealmDriver.Shell

/-- How the next character of a line is taken: as it stands there, behind a backslash, or between single
quotes. -/
inductive Quoting where
  | bare
  | escaped
  | quoted
  deriving DecidableEq, Repr

/-- The characters that a bare shell takes for the begin or the end of something other than a word:
operators and redirections, double quotes, expansions of all kinds, and comments. -/
def active : List Char :=
  ['|', '&', ';', '<', '>', '(', ')', '\n', '"', '$', Char.ofNat 0x60, '*', '?', '[', ']', '{', '}', '~',
    '#', '!', '^', '%']

def extended (word : Option (List Char)) (c : Char) : Option (List Char) := some (word.getD [] ++ [c])

/-- The words of a line behind what was read of one already. There are none if the shell would not take
the line as mere words: if something active stands bare in it, or a quotation does not end. -/
def readWords : Quoting → Option (List Char) → List Char → Option (List (List Char))
  | .bare, word, [] => some word.toList
  | .escaped, _, [] => none
  | .quoted, _, [] => none
  | quoting, word, c :: cs =>
    if c.toNat = 0 then none
    else match quoting with
      | .escaped =>
        -- an escaped newline joins two lines and is no part of a word
        if c = '\n' then readWords .bare word cs else readWords .bare (extended word c) cs
      | .quoted =>
        if c = quote then readWords .bare word cs else readWords .quoted (extended word c) cs
      | .bare =>
        if c = '\\' then readWords .escaped word cs
        else if c = quote then readWords .quoted (some (word.getD [])) cs
        else if c = ' ' ∨ c = '\t' then (readWords .bare none cs).map (word.toList ++ ·)
        else if c ∈ active then none
        else readWords .bare (extended word c) cs

def words? (line : String) : Option (List String) :=
  (readWords .bare none line.toList).map (·.map String.ofList)

theorem not_isPlain_of_special :
    ∀ c ∈ Char.ofNat 0 :: '\\' :: quote :: ' ' :: '\t' :: active, isPlain c = false := by
  decide

variable {word v w cs : List Char}

theorem readWords_plain {c : Char} (hc : isPlain c = true) (word : Option (List Char)) :
    readWords .bare word (c :: cs) = readWords .bare (extended word c) cs := by
  have hspecial : c ∉ Char.ofNat 0 :: '\\' :: quote :: ' ' :: '\t' :: active := by
    intro h
    rw [not_isPlain_of_special c h] at hc
    cases hc
  simp only [List.mem_cons, not_or] at hspecial
  obtain ⟨hnul, hbackslash, hquote, hspace, htab, hactive⟩ := hspecial
  have hzero : c.toNat ≠ 0 := by
    intro h
    exact hnul (by rw [← h, Char.ofNat_toNat])
  have hmem : c ∉ active := by simpa [active] using hactive
  rw [readWords, if_neg hzero]
  simp only [if_neg hbackslash, if_neg hquote, if_neg (not_or.2 ⟨hspace, htab⟩), if_neg hmem]

theorem readWords_plains (hw : w.all isPlain = true) :
    readWords .bare (some v) (w ++ cs) = readWords .bare (some (v ++ w)) cs := by
  induction w generalizing v with
  | nil => rw [List.nil_append, List.append_nil]
  | cons c w ih =>
    rw [List.all_cons, Bool.and_eq_true] at hw
    rw [List.cons_append, readWords_plain hw.1, extended, Option.getD_some, ih hw.2,
      List.append_assoc, List.singleton_append]

theorem readWords_quotedChar {c : Char} (hc : c.toNat ≠ 0) :
    readWords .quoted (some v) (quotedChar c ++ cs) = readWords .quoted (some (v ++ [c])) cs := by
  rw [quotedChar]
  split
  · rename_i hquote
    subst hquote
    rfl
  · rename_i hquote
    rw [List.singleton_append, readWords, if_neg hc]
    simp only [if_neg hquote, extended, Option.getD_some]

theorem readWords_quotedChars (hw : ∀ c ∈ w, c.toNat ≠ 0) :
    readWords .quoted (some v) (w.flatMap quotedChar ++ cs) =
      readWords .quoted (some (v ++ w)) cs := by
  induction w generalizing v with
  | nil => rw [List.flatMap_nil, List.nil_append, List.append_nil]
  | cons c w ih =>
    rw [List.forall_mem_cons] at hw
    rw [List.flatMap_cons, List.append_assoc, readWords_quotedChar hw.1, ih hw.2,
      List.append_assoc, List.singleton_append]

theorem readWords_quoted (hw : ∀ c ∈ w, c.toNat ≠ 0) :
    readWords .bare none (quoted w ++ cs) = readWords .bare (some w) cs := by
  rw [quoted]
  split
  · rename_i hplain
    rw [Bool.and_eq_true, Bool.not_eq_true', List.isEmpty_eq_false_iff] at hplain
    obtain ⟨c, w, rfl⟩ := List.exists_cons_of_ne_nil hplain.1
    have hall := hplain.2
    rw [List.all_cons, Bool.and_eq_true] at hall
    rw [List.cons_append, readWords_plain hall.1, extended, Option.getD_none, List.nil_append,
      readWords_plains hall.2, List.singleton_append]
  · have hopen : readWords .bare none (quote :: (w.flatMap quotedChar ++ quote :: cs)) =
        readWords .quoted (some []) (w.flatMap quotedChar ++ quote :: cs) := rfl
    have hclose : readWords .quoted (some w) (quote :: cs) = readWords .bare (some w) cs := rfl
    rw [List.cons_append, List.cons_append, List.append_assoc, List.singleton_append, hopen,
      readWords_quotedChars hw, List.nil_append, hclose]

theorem readWords_space (cs : List Char) :
    readWords .bare (some w) (' ' :: cs) = (readWords .bare none cs).map (w :: ·) := rfl

theorem readWords_intercalate {words : List (List Char)}
    (hwords : ∀ w ∈ words, ∀ c ∈ w, c.toNat ≠ 0) :
    readWords .bare none ([' '].intercalate (words.map quoted)) = some words := by
  induction words with
  | nil => rfl
  | cons w words ih =>
    rw [List.forall_mem_cons] at hwords
    cases words with
    | nil =>
      rw [List.map_singleton, List.intercalate_singleton, ← List.append_nil (quoted w),
        readWords_quoted hwords.1]
      rfl
    | cons w' words =>
      rw [List.map_cons, List.map_cons, List.intercalate_cons_cons, List.append_assoc,
        readWords_quoted hwords.1, List.singleton_append, readWords_space, ← List.map_cons,
        ih hwords.2, Option.map_some]

/-- A shell reads a line of words as just these words. -/
theorem words?_line {words : List String} (hwords : ∀ w ∈ words, Text.NulFree w) :
    words? (line words) = some words := by
  have hpieces : ∀ w ∈ words.map String.toList, ∀ c ∈ w, c.toNat ≠ 0 := by
    intro w hw c hc
    obtain ⟨s, hs, rfl⟩ := List.mem_map.1 hw
    exact hwords s hs c hc
  have hline : (line words).toList =
      [' '].intercalate ((words.map String.toList).map quoted) := by
    rw [line, String.toList_ofList, List.map_map]
    rfl
  rw [words?, hline, readWords_intercalate hpieces, Option.map_some, List.map_map]
  simp [Function.comp_def, String.ofList_toList]

example : words? "volume create '/it'\\''s' description ''" =
    some ["volume", "create", "/it's", "description", ""] := by decide

end RealmDriver.Shell
