import RealmDriver.Proofs.Files.Fresh

namespace RealmDriver.FileTree

variable {t t' : FileTree} {l : Location} {p : Path}

/-- The same entries everywhere, up to the content of files. -/
structure SameShape (t t' : FileTree) : Prop where
  workingDirectory : t.workingDirectory = t'.workingDirectory
  entries : ∀ l, t.entry? l = t'.entry? l ∨
    ∃ mode content content', t.entry? l = some (.file mode content) ∧
      t'.entry? l = some (.file mode content')

instance : Std.Refl SameShape := ⟨fun _ ↦ ⟨rfl, fun _ ↦ .inl rfl⟩⟩

theorem sameShape_set (hloc : t.entry? l = none) (mode : Nat) (content content' : String) :
    SameShape (t.set l (.file mode content)) (t.set l (.file mode content')) := by
  refine ⟨rfl, fun k ↦ ?_⟩
  rw [entry?_set (ne_root hloc), entry?_set (ne_root hloc)]
  split_ifs
  · exact .inr ⟨mode, content, content', rfl, rfl⟩
  · exact .inl rfl

theorem unset_set (t : FileTree) (l : Location) (e : Entry) : (t.set l e).unset l = t.unset l := by
  have hentries : (t.entries.insert l e).erase l = t.entries.erase l := by
    apply Std.ExtTreeMap.ext_getElem?
    intro k
    simp only [Std.ExtTreeMap.getElem?_erase, Std.ExtTreeMap.getElem?_insert]
    split <;> rfl
  simp only [set, unset, hentries]

theorem Vacant.discard_file {s : Seat} (h : Vacant t p s) (mode : Nat) (content : String) :
    (t.set s.location (.file mode content)).discard p = t.unset s.location := by
  have hsame : Extends (t.set s.location (.file mode content)) (t.set s.location (.file mode content)) :=
    ⟨fun _ _ hentry ↦ hentry, rfl⟩
  rw [h.discard hsame, unset_set]

namespace SameShape

variable (h : SameShape t t')
include h

theorem hasDirectory (l : Location) : t.hasDirectory l = t'.hasDirectory l := by
  rcases h.entries l with hsame | ⟨mode, content, content', hfile, hfile'⟩
  · rw [FileTree.hasDirectory, FileTree.hasDirectory, hsame]
  · rw [FileTree.hasDirectory, FileTree.hasDirectory, hfile, hfile']

theorem isOverlong (l : Location) (name : String) : t.isOverlong l name = t'.isOverlong l name := by
  rcases h.entries l with hsame | ⟨mode, content, content', hfile, hfile'⟩
  · rw [FileTree.isOverlong, FileTree.isOverlong, hsame]
  · rw [FileTree.isOverlong, FileTree.isOverlong, hfile, hfile']
    rfl

theorem walk (l : Location) (parts : List String) : t.walk l parts = t'.walk l parts := by
  induction parts generalizing l with
  | nil => rfl
  | cons part rest ih =>
    rw [FileTree.walk, FileTree.walk, h.hasDirectory, h.isOverlong]
    simp only [ih]
    rcases h.entries (l ++ [part]) with hsame | ⟨mode, content, content', hfile, hfile'⟩
    · rw [hsame]
    · rw [hfile, hfile']

theorem follow (links : Nat) (l : Location) (parts : List String) :
    t.follow links l parts = t'.follow links l parts := by
  induction links generalizing l parts with
  | zero =>
    unfold FileTree.follow
    rw [h.walk]
    cases t'.walk l parts <;> rfl
  | succ links ih =>
    unfold FileTree.follow
    rw [h.walk]
    cases t'.walk l parts with
    | arrived l => rfl
    | refused fault => rfl
    | detour l target rest => exact ih _ _

theorem locate (p : Path) : t.locate p = t'.locate p := by
  rw [FileTree.locate, FileTree.locate, FileTree.start, FileTree.start, h.workingDirectory]
  simp only [h.follow]

theorem file? (p : Path) : (t.file? p).map Prod.snd = (t'.file? p).map Prod.snd := by
  rw [FileTree.file?, FileTree.file?, h.locate]
  cases t'.locate p with
  | error fault => rfl
  | ok l =>
    rcases h.entries l with hsame | ⟨mode, content, content', hfile, hfile'⟩
    · simp only [hsame]
    · simp only [hfile, hfile', Option.map_some]

end SameShape

end RealmDriver.FileTree
