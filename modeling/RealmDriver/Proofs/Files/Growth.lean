import RealmDriver.Proofs.Files.Making
import RealmDriver.Proofs.Frame

namespace RealmDriver

def Entry.IsDirectory (e : Entry) : Prop := ∃ mode, e = .directory mode

namespace FileTree

variable {t t' t'' : FileTree} {loc : Location} {e : Entry} {new new' : Location → Entry → Prop}

/-- Everything in the first tree is in the second one, and what else is there is new in some way. -/
structure Grows (new : Location → Entry → Prop) (t t' : FileTree) : Prop extends Extends t t' where
  added : ∀ k e, FileTree.entry? t' k = some e → t.entry? k = some e ∨ new k e

/-- Some directories may have been added, and nothing else has changed. -/
abbrev AddsDirectories : FileTree → FileTree → Prop := Grows fun _ e ↦ e.IsDirectory

theorem Extends.trans (h : Extends t t') (h' : Extends t' t'') : Extends t t'' where
  kept k e hk := h'.kept k e (h.kept k e hk)
  workingDirectory := h'.workingDirectory.trans h.workingDirectory

theorem Extends.vacant (h : Extends t t') (hloc : FileTree.entry? t' loc = none) :
    t.entry? loc = none := by
  rw [Option.eq_none_iff_forall_ne_some] at hloc ⊢
  intro e he
  exact hloc e (h.kept loc e he)

namespace Grows

theorem of_entries (hentries : t'.entries = t.entries)
    (hdirectory : t'.workingDirectory = t.workingDirectory) : Grows new t t' := by
  have hsame : ∀ k, FileTree.entry? t' k = t.entry? k := by
    intro k
    rw [FileTree.entry?, FileTree.entry?, hentries]
  exact ⟨⟨fun k e hk ↦ (hsame k).trans hk, hdirectory⟩, fun k e hk ↦ .inl ((hsame k).symm.trans hk)⟩

theorem trans (h : Grows new t t') (h' : Grows new t' t'') : Grows new t t'' where
  toExtends := h.toExtends.trans h'.toExtends
  added k e hk := by
    rcases h'.added k e hk with hk | hnew
    · exact h.added k e hk
    · exact .inr hnew

theorem mono (hnew : ∀ k e, new k e → new' k e) (h : Grows new t t') : Grows new' t t' where
  toExtends := h.toExtends
  added k e hk := (h.added k e hk).imp_right (hnew k e)

end Grows

instance : Std.Refl AddsDirectories := ⟨fun _ ↦ .of_entries rfl rfl⟩

instance : IsTrans FileTree AddsDirectories := ⟨fun _ _ _ ↦ Grows.trans⟩

/-- Some directories of one mode may have been added, and nothing else has changed but that more names may
have been made up. -/
structure MakesDirectories (mode : Nat) (t t' : FileTree) : Prop extends
    Grows (fun _ e ↦ e = .directory mode) t t' where
  serial : t.serial ≤ t'.serial
  names : t'.names = t.names

instance {mode : Nat} : Std.Refl (MakesDirectories mode) :=
  ⟨fun _ ↦ ⟨.of_entries rfl rfl, Nat.le_refl _, rfl⟩⟩

instance {mode : Nat} : IsTrans FileTree (MakesDirectories mode) :=
  ⟨fun _ _ _ h h' ↦
    ⟨h.toGrows.trans h'.toGrows, Nat.le_trans h.serial h'.serial, h'.names.trans h.names⟩⟩

theorem MakesDirectories.adds {mode : Nat} (h : MakesDirectories mode t t') : AddsDirectories t t' :=
  h.toGrows.mono fun _ _ he ↦ ⟨mode, he⟩

theorem grows_set (hloc : t.entry? loc = none) (e : Entry) :
    Grows (fun k e' ↦ k = loc ∧ e' = e) t (t.set loc e) where
  toExtends := extends_set hloc e
  added k e' hk := by
    rw [entry?_set (ne_root hloc)] at hk
    split_ifs at hk with hkloc
    · exact .inr ⟨hkloc.symm, (Option.some.inj hk).symm⟩
    · exact .inl hk

theorem entry?_unset (hloc : loc ≠ []) (k : Location) :
    FileTree.entry? (t.unset loc) k = if loc = k then none else t.entry? k := by
  simp only [FileTree.entry?, FileTree.unset, Std.ExtTreeMap.getElem?_erase,
    Std.LawfulEqCmp.compare_eq_iff_eq]
  by_cases hk : loc = k
  · rw [if_pos hk, if_pos hk, if_neg (hk ▸ hloc)]
  · rw [if_neg hk, if_neg hk]

theorem Grows.unset (h : Grows (fun k e ↦ k = loc ∨ new k e) t t')
    (hloc : t.entry? loc = none) : Grows new t (t'.unset loc) where
  kept k e hk := by
    rw [entry?_unset (ne_root hloc), if_neg]
    · exact h.kept k e hk
    · rintro rfl
      rw [hloc] at hk
      cases hk
  workingDirectory := h.workingDirectory
  added k e hk := by
    rw [entry?_unset (ne_root hloc)] at hk
    split_ifs at hk with hkloc
    exact (h.added k e hk).imp_right fun hnew ↦ hnew.resolve_left (Ne.symm hkloc)

namespace createAll

variable {mode depth : Nat} {p : Path}

theorem make_within : (make mode p).Within (MakesDirectories mode) := by
  apply Action.Within.atomically
  intro t t' hcreate
  obtain ⟨s, -, -, hfree, -, rfl⟩ := of_create_ok hcreate
  exact ⟨(grows_set hfree _).mono fun k e hnew ↦ hnew.2, Nat.le_refl _, rfl⟩

theorem unlessThere_within {fault : SystemFault} : (unlessThere p fault).Within (MakesDirectories mode) := by
  intro t
  rw [unlessThere_outcome]
  exact refl t

theorem go_within : (go mode depth p).Within (MakesDirectories mode) := by
  -- the call for the path above has one level less left
  induction depth generalizing p with
  | zero =>
    unfold go
    split_ifs
    · exact .pure _
    · apply Action.Within.bind make_within.attempt
      intro answer
      split
      · exact .pure _
      · split
        · rename_i hdepth
          cases hdepth
        · exact .throw _
      · exact unlessThere_within
  | succ depth ih =>
    unfold go
    split_ifs
    · exact .pure _
    · apply Action.Within.bind make_within.attempt
      intro answer
      split
      · exact .pure _
      · split
        · rename_i hdepth
          cases hdepth
          apply Action.Within.bind ih
          intro _
          apply Action.Within.bind make_within.attempt
          intro again
          split
          · exact .pure _
          · exact unlessThere_within
        · exact .throw _
      · exact unlessThere_within

end createAll

theorem createAll_makes (mode : Nat) (p : Path) : (createAll mode p).Within (MakesDirectories mode) :=
  createAll.go_within

end FileTree

end RealmDriver
