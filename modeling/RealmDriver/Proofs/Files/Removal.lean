import RealmDriver.Proofs.Files.Growth

namespace RealmDriver.FileTree

variable {t t' : FileTree} {l k : Location} {p : Path}

/-- A path ends at an empty directory. Links are followed on the way to its last name, but not there. -/
structure EmptyDirectory (t : FileTree) (p : Path) (l : Location) : Prop where
  seat : ∃ s, t.seat p = .ok s ∧ s.isProper = true ∧ s.location = l
  directory : ∃ mode, t.entry? l = some (.directory mode)
  empty : ∀ k e, t.entry? k = some e → l <+: k → k = l

def cleared (t : FileTree) (p : Path) : FileTree := (t.removeDirectory p).toOption.getD t

theorem entry?_of_ne_root (hk : k ≠ []) : t.entry? k = t.entries[k]? := by
  rw [FileTree.entry?, if_neg hk]

theorem isEmptyAt_iff : t.isEmptyAt l = true ↔ ∀ k e, t.entry? k = some e → l <+: k → k = l := by
  simp only [isEmptyAt, List.all_eq_true, Bool.or_eq_true, decide_eq_true_eq,
    Std.ExtTreeMap.mem_keys, Std.ExtTreeMap.mem_iff_isSome_getElem?]
  constructor
  · intro h k e hk hbelow
    by_cases hroot : k = []
    · rw [hroot, List.prefix_nil] at hbelow
      rw [hroot, hbelow]
    · rw [entry?_of_ne_root hroot] at hk
      rcases h k (by rw [hk]; rfl) with hlength | htake
      · exact (hbelow.eq_of_length_le hlength).symm
      · exact absurd (List.prefix_iff_eq_take.1 hbelow).symm htake
  · intro h k hk
    by_contra hboth
    obtain ⟨hlength, htake⟩ := not_or.1 hboth
    have hroot : k ≠ [] := by
      rintro rfl
      exact hlength (Nat.zero_le _)
    obtain ⟨e, he⟩ := Option.isSome_iff_exists.1 hk
    have hbelow : l <+: k := List.prefix_iff_eq_take.2 (not_not.1 htake).symm
    rw [h k e ((entry?_of_ne_root hroot).trans he) hbelow] at hlength
    exact hlength (Nat.le_refl _)

theorem removeDirectory_ok_iff :
    t.removeDirectory p = .ok t' ↔ ∃ l, t.EmptyDirectory p l ∧ t' = t.unset l := by
  constructor
  · intro h
    rw [removeDirectory] at h
    obtain ⟨s, hseat, h⟩ := Except.bind_ok_iff.1 h
    obtain ⟨hproper, h⟩ := Except.guard_ok_iff.1 h
    split at h
    · cases h
    · rename_i mode hentry
      split_ifs at h with hempty
      cases h
      exact ⟨s.location, ⟨⟨s, hseat, by simpa using hproper, rfl⟩, ⟨mode, hentry⟩,
        isEmptyAt_iff.1 hempty⟩, rfl⟩
    · cases h
    · cases h
  · rintro ⟨l, ⟨⟨s, hseat, hproper, rfl⟩, ⟨mode, hentry⟩, hempty⟩, rfl⟩
    rw [removeDirectory, hseat]
    change (if _ then _ else _) = _
    rw [hproper, hentry, if_neg (by decide)]
    change (if _ then _ else _) = _
    rw [if_pos (isEmptyAt_iff.2 hempty)]
    rfl

namespace EmptyDirectory

theorem ne_root (h : t.EmptyDirectory p l) : l ≠ [] := by
  obtain ⟨s, -, -, rfl⟩ := h.seat
  simp [Seat.location]

theorem unique (h : t.EmptyDirectory p l) (h' : t.EmptyDirectory p k) : l = k := by
  obtain ⟨s, hs, -, rfl⟩ := h.seat
  obtain ⟨s', hs', -, rfl⟩ := h'.seat
  cases hs.symm.trans hs'
  rfl

theorem cleared_eq (h : t.EmptyDirectory p l) : t.cleared p = t.unset l := by
  rw [cleared, removeDirectory_ok_iff.2 ⟨l, h, rfl⟩]
  rfl

end EmptyDirectory

theorem cleared_of_none (h : ∀ l, ¬t.EmptyDirectory p l) : t.cleared p = t := by
  rw [cleared]
  cases hremove : t.removeDirectory p with
  | error fault => rfl
  | ok t' =>
    obtain ⟨l, hl, -⟩ := removeDirectory_ok_iff.1 hremove
    exact absurd hl (h l)

/-- Of all that there is, an empty directory at the path alone is lost. -/
theorem entry?_cleared {e : Entry} :
    FileTree.entry? (t.cleared p) k = some e ↔ t.entry? k = some e ∧ ¬t.EmptyDirectory p k := by
  by_cases hempty : ∃ l, t.EmptyDirectory p l
  · obtain ⟨l, hl⟩ := hempty
    rw [hl.cleared_eq, entry?_unset hl.ne_root]
    by_cases hk : l = k
    · subst hk
      simp [hl]
    · have hnot : ¬t.EmptyDirectory p k := fun h ↦ hk (hl.unique h)
      simp [hk, hnot]
  · have hnot : ∀ l, ¬t.EmptyDirectory p l := fun l hl ↦ hempty ⟨l, hl⟩
    simp [cleared_of_none hnot, hnot]

theorem cleared_workingDirectory : (t.cleared p).workingDirectory = t.workingDirectory := by
  by_cases hempty : ∃ l, t.EmptyDirectory p l
  · obtain ⟨l, hl⟩ := hempty
    rw [hl.cleared_eq, unset]
  · rw [cleared_of_none fun l hl ↦ hempty ⟨l, hl⟩]

theorem extends_cleared : Extends (t.cleared p) t where
  kept _ _ hk := (entry?_cleared.1 hk).1
  workingDirectory := cleared_workingDirectory.symm

theorem cleared_cleared : (t.cleared p).cleared p = t.cleared p := by
  refine cleared_of_none fun l hl ↦ ?_
  obtain ⟨s, hseat, hproper, hlocation⟩ := hl.seat
  obtain ⟨mode, hentry⟩ := hl.directory
  obtain ⟨hbefore, hnot⟩ := entry?_cleared.1 hentry
  by_cases hempty : ∃ k, t.EmptyDirectory p k
  · -- the path ends at the same place as before, and nothing is there any more
    obtain ⟨k, hk⟩ := hempty
    obtain ⟨s', hseat', -, hlocation'⟩ := hk.seat
    cases (extends_cleared.seat hseat).symm.trans hseat'
    exact hnot (hlocation ▸ hlocation' ▸ hk)
  · have hsame := cleared_of_none fun l hl ↦ hempty ⟨l, hl⟩
    exact hnot (hsame ▸ hl)

end RealmDriver.FileTree
