import RealmDriver.Mount.Point
import RealmDriver.Proofs.Files.Fresh

namespace RealmDriver

namespace Path

/-- How the text of a path ends: with its last component, or behind that with a separator or an idle `.`. -/
inductive Ending where
  | component
  | separator
  | dot
  deriving DecidableEq, Repr

def ending (p : Path) : Ending :=
  match p.toList.reverse with
  | '/' :: _ => .separator
  | '.' :: '/' :: _ => .dot
  | _ => .component

def marked (mark : String) : Ending → List String → List String
  | .component, cs => cs.dropLast ++ [cs.getLast?.getD "" ++ mark]
  | .separator, cs => cs ++ [mark]
  | .dot, cs => cs ++ ["." ++ mark]

variable {p q : Path} {mark : String}

section Splitting

variable {above last : List Char}

theorem exists_last_separator (h : '/' ∈ p.toList) :
    ∃ above last, p = String.ofList (above ++ '/' :: last) ∧ '/' ∉ last := by
  obtain ⟨front, rest, hsplit, hfree⟩ := List.eq_append_cons_of_mem (List.mem_reverse.2 h)
  refine ⟨rest.reverse, front.reverse, String.toList_injective ?_, by simpa using hfree⟩
  rw [String.toList_ofList, ← List.reverse_reverse p.toList, hsplit, List.reverse_append,
    List.reverse_cons, List.append_assoc, List.singleton_append]

theorem components_below (above : List Char) (hlast : '/' ∉ last) :
    components (String.ofList (above ++ '/' :: last)) =
      components (String.ofList (above ++ ['/'])) ++
        if isIdle (String.ofList last) then [] else [String.ofList last] := by
  obtain ⟨first, more, habove⟩ := List.exists_cons_of_ne_nil (Text.splitAt_ne_nil (· = '/') above)
  have hparts (last : List Char) (hlast : '/' ∉ last) :
      parts (String.ofList (above ++ '/' :: last)) =
        String.ofList first :: (more.map String.ofList ++ [String.ofList last]) := by
    have hname : parts (String.ofList last) = [String.ofList last] :=
      parts_of_name (by rwa [String.toList_ofList])
    rw [parts, String.toList_ofList] at hname
    rw [parts_of_toList String.toList_ofList, habove, hname]
    rfl
  have habsolute : isAbsolute (String.ofList (above ++ '/' :: last)) =
      isAbsolute (String.ofList (above ++ ['/'])) := by
    cases above <;> simp [isAbsolute]
  rw [components, components, hparts last hlast, hparts [] List.not_mem_nil, habsolute]
  have hempty : isIdle (String.ofList []) = true := rfl
  cases hidle : isIdle (String.ofList last) <;>
    simp only [List.filter_append, List.filter_singleton, hidle, hempty, List.append_assoc] <;> rfl

theorem components_of_name (h : '/' ∉ p.toList) : components p = if p = "" then [] else [p] := by
  have habsolute : isAbsolute p = false := by
    rw [isAbsolute, decide_eq_false_iff_not]
    exact fun hhead ↦ h (List.mem_of_mem_head? hhead)
  rw [components, parts_of_name h, habsolute]
  simp

theorem ending_of_name (h : '/' ∉ p.toList) : ending p = .component := by
  rw [← List.mem_reverse] at h
  rw [ending]
  split
  · simp_all
  · simp_all
  · rfl

theorem ending_separator (above : List Char) :
    ending (String.ofList (above ++ ['/'])) = .separator := by
  simp [ending]

theorem ending_dot (above : List Char) : ending (String.ofList (above ++ ['/', '.'])) = .dot := by
  simp [ending]

theorem ending_component (above : List Char) (hlast : '/' ∉ last) (hne : last ≠ [])
    (hdot : last ≠ ['.']) : ending (String.ofList (above ++ '/' :: last)) = .component := by
  obtain ⟨front, c, rfl⟩ := (List.eq_nil_or_concat last).resolve_left hne
  rw [List.concat_eq_append] at hlast hdot ⊢
  have hreverse : (above ++ '/' :: (front ++ [c])).reverse =
      c :: (front.reverse ++ '/' :: above.reverse) := by simp
  rw [ending, String.toList_ofList, hreverse]
  split
  · rename_i heq
    exact absurd (List.cons.inj heq).1 (by rintro rfl; simp at hlast)
  · rename_i heq
    obtain ⟨rfl, hrest⟩ := List.cons.inj heq
    -- before the dot there is a character of the same component
    obtain ⟨front, d, rfl⟩ := (List.eq_nil_or_concat front).resolve_left (by rintro rfl; simp at hdot)
    simp_all
  · rfl

theorem components_ne_nil (h : p ≠ "") : components p ≠ [] := by
  obtain ⟨c, cs, hp⟩ := List.exists_cons_of_ne_nil (mt String.toList_eq_nil_iff.1 h)
  by_cases hc : c = '/'
  · have habsolute : isAbsolute p = true := by simp [isAbsolute, hp, hc]
    rw [components]
    split
    · exact absurd ‹_› (FileTree.parts_ne_nil p)
    · simp [habsolute]
  · obtain ⟨piece, pieces, hpieces⟩ :=
      List.exists_cons_of_ne_nil (Text.splitAt_ne_nil (· = '/') cs)
    have habsolute : isAbsolute p = false := by simp [isAbsolute, hp, hc]
    have hparts : parts p = String.ofList (c :: piece) :: pieces.map String.ofList := by
      rw [parts, hp, Text.splitAt_cons_neg (decide_eq_false hc) hpieces, List.map_cons]
    simp [components, hparts, habsolute]

end Splitting

section Marking

variable {e e' : Ending} {cs : List String}

theorem components_append (hslash : '/' ∉ mark.toList) (hidle : ∀ name, isIdle (name ++ mark) = false)
    (p : Path) : components (p ++ mark) = marked mark (ending p) (components p) := by
  by_cases hp : '/' ∈ p.toList
  · obtain ⟨above, last, rfl, hlast⟩ := exists_last_separator hp
    have hbehind : String.ofList (above ++ '/' :: last) ++ mark =
        String.ofList (above ++ '/' :: (last ++ mark.toList)) := by
      simp [← String.toList_inj]
    have hlast' : String.ofList (last ++ mark.toList) = String.ofList last ++ mark := by simp
    rw [hbehind, components_below above (by simp [hlast, hslash]), hlast', hidle,
      components_below above hlast]
    by_cases hnil : last = []
    · subst hnil
      rw [ending_separator]
      simp [marked, isIdle]
    · by_cases hdot : last = ['.']
      · subst hdot
        rw [ending_dot]
        simp [marked, isIdle]
      · have hkept : isIdle (String.ofList last) = false := by
          simp [isIdle, hnil, hdot, ← String.toList_inj]
        rw [ending_component above hlast hnil hdot, hkept]
        simp [marked]
  · have hp' : '/' ∉ (p ++ mark).toList := by simp [hp, hslash]
    have hne : p ++ mark ≠ "" := fun h ↦ by simpa [h, isIdle] using hidle p
    rw [components_of_name hp', if_neg hne, ending_of_name hp, components_of_name hp]
    split
    · rename_i hempty
      simp [marked, hempty]
    · simp [marked]

theorem exists_getLast?_marked (mark : String) (e : Ending) (cs : List String) :
    ∃ name, (marked mark e cs).getLast? = some (name ++ mark) := by
  cases e with
  | component => exact ⟨_, List.getLast?_concat⟩
  | separator => exact ⟨"", by simp [marked]⟩
  | dot => exact ⟨".", List.getLast?_concat⟩

theorem marked_ne_self (hmark : mark ≠ "") (e : Ending) (cs : List String) : marked mark e cs ≠ cs := by
  intro h
  have hlength := congrArg List.length h
  cases e with
  | component =>
    obtain rfl | ⟨front, last, rfl⟩ := List.eq_nil_or_concat cs
    · simp [marked] at hlength
    · simp [marked, hmark] at h
  | separator => simp [marked] at hlength
  | dot => simp [marked] at hlength

theorem length_marked (mark : String) (e : Ending) (hcs : cs ≠ []) :
    (marked mark e cs).length = cs.length + if e = .component then 0 else 1 := by
  have hpos := List.length_pos_iff.2 hcs
  cases e with
  | component =>
    simp only [marked, List.length_append, List.length_dropLast, List.length_singleton, if_true]
    omega
  | separator => simp [marked]
  | dot => simp [marked]

theorem marked_inj (hcs : cs ≠ []) : marked mark e cs = marked mark e' cs ↔ e = e' := by
  refine ⟨fun h ↦ ?_, fun h ↦ by rw [h]⟩
  have hlength := congrArg List.length h
  rw [length_marked mark e hcs, length_marked mark e' hcs] at hlength
  have hlonger : mark ≠ "." ++ mark := fun hmark ↦ by
    have hsame := congrArg String.length hmark
    simp at hsame
  cases e with
  | component =>
    cases e' with
    | component => rfl
    | separator | dot => simp at hlength
  | separator =>
    cases e' with
    | component => simp at hlength
    | separator => rfl
    | dot => exact absurd (List.singleton_inj.1 (List.append_cancel_left h)) hlonger
  | dot =>
    cases e' with
    | component => simp at hlength
    | separator => exact absurd (List.singleton_inj.1 (List.append_cancel_left h)).symm hlonger
    | dot => rfl

/-- Two spellings of a path lead to one path with a mark behind them just if they end alike. -/
theorem components_append_eq_iff (hslash : '/' ∉ mark.toList)
    (hidle : ∀ name, isIdle (name ++ mark) = false) (h : components p = components q) :
    components (p ++ mark) = components (q ++ mark) ↔ ending p = ending q := by
  rw [components_append hslash hidle, components_append hslash hidle, ← h]
  by_cases hp : p = ""
  · have hq : q = "" := by
      by_contra hq
      exact components_ne_nil hq (by rw [← h, hp]; rfl)
    rw [hp, hq]
    simp
  · exact marked_inj (components_ne_nil hp)

end Marking

end Path

namespace MountPoint

/-- An entry that the kernel did not mark as one of a removed directory. -/
def IsLive (m : MountPoint) : Prop :=
  ∀ last ∈ m.path.components.getLast?, ¬deletedMark.toList <:+ last.toList

theorem slash_not_mem_deletedMark : '/' ∉ deletedMark.toList := by decide

theorem not_isIdle_deleted (name : String) : Path.isIdle (name ++ deletedMark) = false := by
  have hmark : '(' ∈ (name ++ deletedMark).toList := by
    rw [String.toList_append]
    exact List.mem_append_right _ (by decide)
  rw [Path.isIdle, Bool.or_eq_false_iff, decide_eq_false_iff_not, decide_eq_false_iff_not]
  constructor
  · intro h
    simp [h] at hmark
  · intro h
    simp [h] at hmark

variable {m : MountPoint} {d d' : Path}

theorem IsLive.isAt (hm : m.IsLive) (d : Path) : m.isAt d = Path.same m.path d := by
  have hgone : Path.same m.path (d ++ deletedMark) = false := by
    rw [Path.same, decide_eq_false_iff_not,
      Path.components_append slash_not_mem_deletedMark not_isIdle_deleted]
    intro h
    obtain ⟨name, hname⟩ := Path.exists_getLast?_marked deletedMark d.ending d.components
    refine hm (name ++ deletedMark) (by rw [h, hname]; rfl) ?_
    rw [String.toList_append]
    exact List.suffix_append _ _
  rw [MountPoint.isAt, hgone, Bool.or_false]

/-- **Equal paths are matched alike by every live entry, and by every entry at all just if their texts
end alike:** the mark of a removed directory goes behind the last component of the one spelling, and becomes
a component of its own behind the trailing separator of another. -/
theorem isAt_congr_iff (h : Path.same d d' = true) :
    (∀ m : MountPoint, m.IsLive → m.isAt d = m.isAt d') ∧
    ((∀ m : MountPoint, m.isAt d = m.isAt d') ↔ d.ending = d'.ending) := by
  replace h : d.components = d'.components := of_decide_eq_true h
  have hsame (p : Path) : Path.same p d = Path.same p d' := by rw [Path.same, Path.same, h]
  refine ⟨fun m hm ↦ by rw [hm.isAt, hm.isAt, hsame], ?_⟩
  rw [← Path.components_append_eq_iff slash_not_mem_deletedMark not_isIdle_deleted h]
  constructor
  · intro hall
    -- the entry that the kernel would have for the first spelling
    have hthere := hall { device := "", path := d ++ deletedMark, fsType := "", options := [] }
    simp only [isAt, Path.same, decide_true, Bool.or_true] at hthere
    rw [eq_comm, Bool.or_eq_true, decide_eq_true_iff, decide_eq_true_iff] at hthere
    refine hthere.resolve_left fun heq ↦ ?_
    rw [Path.components_append slash_not_mem_deletedMark not_isIdle_deleted, ← h] at heq
    exact Path.marked_ne_self (by decide) _ _ heq
  · intro hgone m
    rw [isAt, isAt, hsame, Path.same, Path.same, Path.same, hgone]

def removed : MountPoint :=
  { device := "panfs://192.0.2.1/vol1", path := "/mnt/vol1\\040(deleted)", fsType := "panfs", options := [] }

theorem isAt_congr_of_doubled_separators :
    Path.same "/mnt/vol1" "//mnt/./vol1" = true ∧ removed.isAt "/mnt/vol1" = true ∧
      removed.isAt "/mnt/vol1" = removed.isAt "//mnt/./vol1" :=
  ⟨by decide, by decide, (isAt_congr_iff (by decide)).2.2 (by decide) removed⟩

/-- With a separator behind it the directory is not found any more once it was removed. -/
theorem isAt_misses_trailing_separator :
    Path.same "/mnt/vol1" "/mnt/vol1/" = true ∧ removed.isAt "/mnt/vol1" = true ∧
      removed.isAt "/mnt/vol1/" = false := by decide

end MountPoint

end RealmDriver
