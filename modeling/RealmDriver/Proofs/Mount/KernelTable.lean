import RealmDriver.Mount.Table
import RealmDriver.Proofs.Action
import RealmDriver.Proofs.Files.Path
import RealmDriver.Proofs.Number.Integer
import RealmDriver.Proofs.Text.Character

namespace RealmDriver

structure KernelMount where
  device : String
  path : Path
  fsType : String
  options : String
  frequency : Int64
  pass : Int64
  deriving DecidableEq, Repr

namespace KernelMount

def coded : List Char := [' ', '\t', '\n', '\\']

def writtenChar (c : Char) : List Char :=
  if c = ' ' then ['\\', '0', '4', '0']
  else if c = '\t' then ['\\', '0', '1', '1']
  else if c = '\n' then ['\\', '0', '1', '2']
  else if c = '\\' then ['\\', '1', '3', '4']
  else [c]

def written (cs : List Char) : List Char := cs.flatMap writtenChar

def shown (s : String) : String := String.ofList (written s.toList)

variable (k : KernelMount)

def texts : List String := [k.device, k.path, k.fsType, k.options]

def row : List Char :=
  [' '].intercalate (k.texts.map (fun t ↦ written t.toList) ++
    [(toString k.frequency.toInt).toList, (toString k.pass.toInt).toList])

def table (ks : List KernelMount) : List UInt8 :=
  (String.ofList (ks.flatMap fun k ↦ k.row ++ ['\n'])).toByteArray.data.toList

def pieces : List (List Char) := k.texts.flatMap fun t ↦ Text.words (written t.toList)

/-- A mount whose texts each make one word: none is empty, and none has a blank that is not written as a
code. -/
def Legible : Prop :=
  ∀ t ∈ k.texts, t ≠ "" ∧ ∀ c ∈ t.toList, Text.isBlank c = true → c ∈ coded

instance : Decidable k.Legible :=
  inferInstanceAs (Decidable (∀ t ∈ k.texts, t ≠ "" ∧ ∀ c ∈ t.toList, Text.isBlank c = true → c ∈ coded))

def entry : MountPoint where
  device := shown k.device
  path := shown k.path
  fsType := shown k.fsType
  options := (Text.splitAt (· = ',') (written k.options.toList)).map String.ofList
  frequency := k.frequency.toInt
  pass := k.pass.toInt

section Writing

variable {c d : Char} {cs ds : List Char}

theorem writtenChar_of_not_coded (hc : c ∉ coded) : writtenChar c = [c] := by
  simp only [coded, List.mem_cons, List.not_mem_nil, or_false, not_or] at hc
  rw [writtenChar, if_neg hc.1, if_neg hc.2.1, if_neg hc.2.2.1, if_neg hc.2.2.2]

theorem writtenChar_of_coded (hc : c ∈ coded) :
    ∃ x y z, writtenChar c = ['\\', x, y, z] ∧ ∀ d ∈ [x, y, z], Numeral.isDigit d = true := by
  simp only [coded, List.mem_cons, List.not_mem_nil, or_false] at hc
  rcases hc with rfl | rfl | rfl | rfl
  · exact ⟨'0', '4', '0', rfl, by decide⟩
  · exact ⟨'0', '1', '1', rfl, by decide⟩
  · exact ⟨'0', '1', '2', rfl, by decide⟩
  · exact ⟨'1', '3', '4', rfl, by decide⟩

theorem of_mem_writtenChar (hd : d ∈ writtenChar c) :
    d = '\\' ∨ Numeral.isDigit d = true ∨ d = c ∧ c ∉ coded := by
  by_cases hc : c ∈ coded
  · obtain ⟨x, y, z, hcode, hdigits⟩ := writtenChar_of_coded hc
    rw [hcode] at hd
    rcases List.mem_cons.1 hd with hd | hd
    · exact .inl hd
    · exact .inr (.inl (hdigits d hd))
  · rw [writtenChar_of_not_coded hc, List.mem_singleton] at hd
    exact .inr (.inr ⟨hd, hc⟩)

theorem of_mem_written (hd : d ∈ written cs) :
    d = '\\' ∨ Numeral.isDigit d = true ∨ d ∈ cs ∧ d ∉ coded := by
  obtain ⟨c, hc, hd⟩ := List.mem_flatMap.1 hd
  rcases of_mem_writtenChar hd with h | h | ⟨rfl, h⟩
  · exact .inl h
  · exact .inr (.inl h)
  · exact .inr (.inr ⟨hc, h⟩)

theorem written_cons (c : Char) (cs : List Char) :
    written (c :: cs) = writtenChar c ++ written cs := List.flatMap_cons

theorem written_append (cs ds : List Char) : written (cs ++ ds) = written cs ++ written ds :=
  List.flatMap_append

theorem written_of_not_coded (hcs : ∀ c ∈ cs, c ∉ coded) : written cs = cs := by
  induction cs with
  | nil => rfl
  | cons c cs ih =>
    rw [List.forall_mem_cons] at hcs
    rw [written_cons, writtenChar_of_not_coded hcs.1, ih hcs.2, List.singleton_append]

theorem backslash_mem_written : '\\' ∈ written cs ↔ ∃ c ∈ cs, c ∈ coded := by
  constructor
  · intro h
    obtain ⟨c, hc, h⟩ := List.mem_flatMap.1 h
    refine ⟨c, hc, ?_⟩
    by_contra hcoded
    rw [writtenChar_of_not_coded hcoded, List.mem_singleton] at h
    exact hcoded (h ▸ by decide)
  · rintro ⟨c, hc, hcoded⟩
    obtain ⟨x, y, z, hcode, -⟩ := writtenChar_of_coded hcoded
    exact List.mem_flatMap.2 ⟨c, hc, hcode ▸ List.mem_cons_self⟩

theorem writtenChar_ne_nil (c : Char) : writtenChar c ≠ [] := by
  by_cases hc : c ∈ coded
  · obtain ⟨x, y, z, hcode, -⟩ := writtenChar_of_coded hc
    rw [hcode]
    exact List.cons_ne_nil _ _
  · rw [writtenChar_of_not_coded hc]
    exact List.cons_ne_nil _ _

theorem written_ne_nil (hcs : cs ≠ []) : written cs ≠ [] := by
  obtain ⟨c, cs, rfl⟩ := List.exists_cons_of_ne_nil hcs
  rw [written_cons]
  exact List.append_ne_nil_of_left_ne_nil (writtenChar_ne_nil c) _

end Writing

section Reading

theorem of_mem_toString {i : Int} {c : Char} (hc : c ∈ (toString i).toList) :
    c = '-' ∨ Numeral.isDigit c = true := by
  rcases lt_or_ge i 0 with hi | hi
  · rw [Numeral.toList_toString_neg hi] at hc
    exact (List.mem_cons.1 hc).imp_right Numeral.isDigit_of_mem_toDigits
  · rw [Numeral.toList_toString_nonneg hi] at hc
    exact .inr (Numeral.isDigit_of_mem_toDigits hc)

theorem toString_ne_nil (i : Int) : (toString i).toList ≠ [] := by
  rcases lt_or_ge i 0 with hi | hi
  · rw [Numeral.toList_toString_neg hi]
    exact List.cons_ne_nil _ _
  · rw [Numeral.toList_toString_nonneg hi]
    exact Nat.toDigits_ne_nil

theorem not_isBlank_of_mem_toString {i : Int} {c : Char} (hc : c ∈ (toString i).toList) :
    Text.isBlank c = false := by
  rcases of_mem_toString hc with rfl | hdigit
  · decide
  · exact Numeral.not_isBlank_of_isDigit hdigit

theorem words_toString (i : Int) : Text.words (toString i).toList = [(toString i).toList] :=
  Text.words_of_forall (toString_ne_nil i) fun _ ↦ not_isBlank_of_mem_toString

theorem words_row : Text.words k.row = k.pieces ++
    [(toString k.frequency.toInt).toList, (toString k.pass.toInt).toList] := by
  rw [row, Text.words_intercalate, List.flatMap_append, List.flatMap_map, pieces]
  congr 1
  simp only [List.flatMap_cons, List.flatMap_nil, words_toString, List.singleton_append,
    List.append_nil]

theorem readLine_row {a b c e : List Char} (hpieces : k.pieces = [a, b, c, e]) :
    MountTable.readLine k.row = .ok
      { device := String.ofList a, path := String.ofList b, fsType := String.ofList c
        options := (Text.splitAt (· = ',') e).map String.ofList
        frequency := k.frequency.toInt, pass := k.pass.toInt } := by
  simp only [MountTable.readLine, words_row, hpieces, List.cons_append, List.nil_append, List.map_cons,
    List.map_nil, String.ofList_toList, Numeral.readInt64_toString, String.toList_ofList]
  rfl

theorem readLine_row_isOk_iff :
    (∃ point, MountTable.readLine k.row = .ok point) ↔ k.pieces.length = 4 := by
  constructor
  · rintro ⟨point, hpoint⟩
    rw [MountTable.readLine] at hpoint
    split at hpoint
    · rename_i hfields
      have hlength := congrArg List.length hfields
      rw [words_row, List.length_map, List.length_append] at hlength
      exact Nat.add_right_cancel hlength
    · cases hpoint
  · intro hlength
    match hpieces : k.pieces, hlength with
    | [a, b, c, e], _ => exact ⟨_, readLine_row k hpieces⟩

theorem newline_not_mem_row : '\n' ∉ k.row := by
  intro h
  rcases Text.of_mem_intercalate h with h | ⟨f, hf, h⟩
  · cases h
  · rcases List.mem_append.1 hf with hf | hf
    · obtain ⟨t, -, rfl⟩ := List.mem_map.1 hf
      rcases of_mem_written h with h | h | ⟨-, h⟩
      · cases h
      · exact absurd h (by decide)
      · exact h (by decide)
    · simp only [List.mem_cons, List.not_mem_nil, or_false] at hf
      have hnumber : ∃ i : Int, f = (toString i).toList := hf.elim (⟨_, ·⟩) (⟨_, ·⟩)
      obtain ⟨i, rfl⟩ := hnumber
      exact absurd (not_isBlank_of_mem_toString h) (by decide)

theorem row_eq_concat : ∃ front d, k.row = front ++ [d] ∧ Text.isBlank d = false := by
  obtain ⟨front, hfront⟩ := Text.intercalate_concat [' ']
    (k.texts.map (fun t ↦ written t.toList) ++ [(toString k.frequency.toInt).toList])
  -- the last number has a last digit
  obtain ⟨digits, d, hd⟩ := (List.eq_nil_or_concat (toString k.pass.toInt).toList).resolve_left
    (toString_ne_nil _)
  rw [List.concat_eq_append] at hd
  have hmem : d ∈ (toString k.pass.toInt).toList :=
    hd ▸ List.mem_append_right _ (List.mem_singleton.2 rfl)
  refine ⟨front ++ digits, d, ?_, not_isBlank_of_mem_toString hmem⟩
  rw [row, List.append_cons, hfront, hd, List.append_assoc]

theorem dropReturn_row : Text.dropReturn k.row = k.row := by
  obtain ⟨front, d, hrow, hd⟩ := row_eq_concat k
  rw [hrow]
  exact Text.dropReturn_of_last fun h ↦ absurd (h ▸ hd) (by decide)

theorem row_not_blank : k.row.all Text.isBlank = false := by
  obtain ⟨front, d, hrow, hd⟩ := row_eq_concat k
  rw [hrow, List.all_append, List.all_cons, hd, Bool.false_and, Bool.and_false]

theorem lines_table (ks : List KernelMount) :
    (Text.lines (ks.flatMap fun k ↦ k.row ++ ['\n'])).filter (!·.all Text.isBlank) =
      ks.map row := by
  have hlines : Text.lines (ks.flatMap fun k ↦ k.row ++ ['\n']) = (ks.map row).map Text.dropReturn := by
    rw [← Text.lines_terminated, List.flatMap_map]
    intro r hr
    obtain ⟨k, -, rfl⟩ := List.mem_map.1 hr
    exact newline_not_mem_row k
  have hkept : (ks.map row).map Text.dropReturn = ks.map row := by
    rw [List.map_map]
    exact List.map_congr_left fun k _ ↦ dropReturn_row k
  rw [hlines, hkept, List.filter_eq_self]
  intro r hr
  obtain ⟨k, -, rfl⟩ := List.mem_map.1 hr
  rw [row_not_blank, Bool.not_false]

theorem read_table_eq (ks : List KernelMount) :
    MountTable.read (table ks) = ks.mapM fun k ↦ MountTable.readLine k.row := by
  rw [MountTable.read, table, Text.decode_toByteArray]
  simp only [MountTable.readText, String.toList_ofList, lines_table, List.mapM_map]
  rfl

theorem read_table_isOk_iff (ks : List KernelMount) :
    (∃ points, MountTable.read (table ks) = .ok points) ↔ ∀ k ∈ ks, k.pieces.length = 4 := by
  rw [read_table_eq, Except.mapM_isOk_iff]
  exact forall₂_congr fun k _ ↦ readLine_row_isOk_iff k

theorem words_written {t : String} (hne : t ≠ "")
    (hblank : ∀ c ∈ t.toList, Text.isBlank c = true → c ∈ coded) :
    Text.words (written t.toList) = [written t.toList] := by
  refine Text.words_of_forall (written_ne_nil (by simpa using hne)) fun d hd ↦ ?_
  rcases of_mem_written hd with rfl | hdigit | ⟨hmem, hplain⟩
  · decide
  · exact Numeral.not_isBlank_of_isDigit hdigit
  · exact Bool.eq_false_iff.2 fun h ↦ hplain (hblank d hmem h)

theorem pieces_of_legible (hk : k.Legible) : k.pieces = k.texts.map fun t ↦ written t.toList := by
  have hwords : ∀ t ∈ k.texts, Text.words (written t.toList) = [written t.toList] :=
    fun t ht ↦ words_written (hk t ht).1 (hk t ht).2
  simp only [texts, List.forall_mem_cons] at hwords
  obtain ⟨hdevice, hpath, htype, hoptions, -⟩ := hwords
  simp only [pieces, texts, List.flatMap_cons, List.flatMap_nil, hdevice, hpath, htype, hoptions]
  rfl

theorem read_table {ks : List KernelMount} (hks : ∀ k ∈ ks, k.Legible) :
    MountTable.read (table ks) = .ok (ks.map entry) := by
  rw [read_table_eq]
  exact Except.mapM_of_forall fun k hk ↦ readLine_row k (pieces_of_legible k (hks k hk))

end Reading

end KernelMount

end RealmDriver
