import RealmDriver.Mount.Table
import RealmDriver.Proofs.Action
import RealmDriver.Proofs.Number.Natural
import RealmDriver.Proofs.Text.Blank

namespace RealmDriver.MountTable

variable {text : String} {bytes : List UInt8} {line : List Char} {point : MountPoint}

/-- Six words, of which the last two are integers. -/
def IsReadable (line : List Char) : Prop :=
  ∃ device path fsType options frequency pass : List Char,
    Text.Spaced [device, path, fsType, options, frequency, pass] line ∧
      (∃ i, Numeral.IsInt64 frequency i) ∧ ∃ i, Numeral.IsInt64 pass i

/-- The row of a mount: the first three words as they are, the options with commas between them, and two
integers. -/
def IsRow (line : List Char) (point : MountPoint) : Prop :=
  ∃ options frequency pass : List Char,
    Text.Spaced [point.device.toList, point.path.toList, point.fsType.toList, options, frequency, pass]
        line ∧
      Text.Separated ',' (point.options.map String.toList) options ∧
      Numeral.IsInt64 frequency point.frequency ∧ Numeral.IsInt64 pass point.pass

/-- The rows of a text, with a newline between each and the next, and the bytes that the text is. -/
def IsTable (rows : List (List Char)) (bytes : List UInt8) : Prop :=
  ∃ text : String, text.toByteArray.data.toList = bytes ∧ Text.Separated '\n' rows text.toList

section Row

theorem readLine_congr {line' : List Char} (h : Text.words line = Text.words line') :
    readLine line = readLine line' := by
  rw [readLine, readLine, h]

theorem separated_options {cs : List Char} {pieces : List (List Char)} :
    Text.splitAt (· = ',') cs = pieces ↔ Text.Separated ',' pieces cs :=
  Text.splitAt_eq_iff fun _ ↦ decide_eq_true_iff

theorem readLine_ok_iff : readLine line = .ok point ↔ IsRow line point := by
  constructor
  · intro h
    rw [readLine] at h
    split at h
    · rename_i device path fsType options frequency pass hfields
      obtain ⟨i, hi, h⟩ := Except.bind_ok_iff.1 h
      obtain ⟨j, hj, h⟩ := Except.bind_ok_iff.1 h
      cases h
      have hwords := congrArg (List.map String.toList) hfields
      rw [Text.map_toList_ofList] at hwords
      refine ⟨options.toList, frequency.toList, pass.toList, Text.words_eq_iff.1 hwords, ?_,
        Numeral.readInt64_ok_iff.1 (Except.mapError_ok_iff.1 hi),
        Numeral.readInt64_ok_iff.1 (Except.mapError_ok_iff.1 hj)⟩
      rw [Text.map_toList_ofList]
      exact separated_options.1 rfl
    · cases h
  · rintro ⟨options, frequency, pass, hwords, hoptions, hfrequency, hpass⟩
    rw [← Text.words_eq_iff] at hwords
    rw [← separated_options] at hoptions
    rw [← String.toList_ofList (l := frequency), ← Numeral.readInt64_ok_iff] at hfrequency
    rw [← String.toList_ofList (l := pass), ← Numeral.readInt64_ok_iff] at hpass
    rw [readLine, hwords]
    simp only [List.map_cons, List.map_nil, String.ofList_toList, String.toList_ofList, hfrequency, hpass,
      hoptions, Text.map_ofList_toList]
    rfl

theorem isReadable_iff : IsReadable line ↔ ∃ point, IsRow line point := by
  constructor
  · rintro ⟨device, path, fsType, options, frequency, pass, hwords, ⟨i, hi⟩, j, hj⟩
    refine ⟨{ device := String.ofList device, path := String.ofList path
              fsType := String.ofList fsType
              options := (Text.splitAt (· = ',') options).map String.ofList
              frequency := i, pass := j }, options, frequency, pass, ?_, ?_, hi, hj⟩
    · simpa only [String.toList_ofList] using hwords
    · rw [Text.map_toList_ofList]
      exact separated_options.1 rfl
  · rintro ⟨point, options, frequency, pass, hwords, -, hi, hj⟩
    exact ⟨_, _, _, _, _, _, hwords, ⟨_, hi⟩, _, hj⟩

end Row

section Table

def filled (rows : List (List Char)) : List (List Char) := rows.filter (!·.all Text.isBlank)

theorem mem_filled {rows : List (List Char)} :
    line ∈ filled rows ↔ line ∈ rows ∧ ¬∀ c ∈ line, Text.isBlank c = true := by
  rw [filled, List.mem_filter, Bool.not_eq_true', ← Bool.not_eq_true, List.all_eq_true]

theorem isTable_iff {rows : List (List Char)} : IsTable rows bytes ↔
    ∃ text, Text.decode bytes = .ok text ∧ Text.splitAt (· == '\n') text.toList = rows := by
  refine exists_congr fun text ↦ ?_
  rw [Text.decode_ok_iff, Text.splitAt_eq_iff fun c ↦ beq_iff_eq]

theorem readText_eq (text : String) :
    readText text = (filled (Text.splitAt (· == '\n') text.toList)).mapM readLine :=
  Except.mapM_congr_of_map (fun _ _ ↦ readLine_congr) (Text.words_lines text.toList)

theorem read_ok_iff_mapM {points : List MountPoint} : read bytes = .ok points ↔
    ∃ rows, IsTable rows bytes ∧ (filled rows).mapM readLine = .ok points := by
  simp only [isTable_iff]
  rw [read]
  cases Text.decode bytes with
  | error fault =>
    refine iff_of_false (fun h ↦ nomatch h) ?_
    rintro ⟨rows, ⟨text, h, -⟩, -⟩
    cases h
  | ok text =>
    dsimp only
    rw [readText_eq]
    constructor
    · intro h
      exact ⟨_, ⟨text, rfl, rfl⟩, h⟩
    · rintro ⟨rows, ⟨_, ⟨⟩, rfl⟩, h⟩
      exact h

theorem forall_filled_iff {p : List Char → Prop} {rows : List (List Char)} :
    (∀ row ∈ filled rows, p row) ↔ ∀ row ∈ rows, (∀ c ∈ row, Text.isBlank c = true) ∨ p row := by
  simp only [mem_filled, and_imp, ← or_iff_not_imp_left]

/-- A table is read if and only if it is a text whose rows are blank or say one mount each. There is then
an entry for each row that is not blank, in the order of the rows, and it is the mount that the row says. -/
theorem read_ok_iff_rows (bytes : List UInt8) :
    ((∃ points, read bytes = .ok points) ↔
      ∃ rows, IsTable rows bytes ∧
        ∀ row ∈ rows, (∀ c ∈ row, Text.isBlank c = true) ∨ IsReadable row) ∧
    ∀ points, read bytes = .ok points ↔
      ∃ rows, IsTable rows bytes ∧ List.Forall₂ IsRow (filled rows) points := by
  have hread (points : List MountPoint) : read bytes = .ok points ↔
      ∃ rows, IsTable rows bytes ∧ List.Forall₂ IsRow (filled rows) points := by
    rw [read_ok_iff_mapM]
    simp only [Except.mapM_ok_iff_forall₂, readLine_ok_iff]
  refine ⟨?_, hread⟩
  have hsome (rows : List (List Char)) : (∃ points, (filled rows).mapM readLine = .ok points) ↔
      ∀ row ∈ rows, (∀ c ∈ row, Text.isBlank c = true) ∨ IsReadable row := by
    rw [Except.mapM_isOk_iff, ← forall_filled_iff]
    simp only [isReadable_iff, readLine_ok_iff]
  simp only [← hsome, read_ok_iff_mapM]
  constructor
  · rintro ⟨points, rows, htable, hpoints⟩
    exact ⟨rows, htable, points, hpoints⟩
  · rintro ⟨rows, htable, points, hpoints⟩
    exact ⟨points, rows, htable, hpoints⟩

end Table

end RealmDriver.MountTable
