import RealmDriver.Proofs.Files.Growth

namespace RealmDriver

namespace Path

variable {p dir name : Path}

theorem parts_of_toList {a b : List Char} (h : p.toList = a ++ '/' :: b) :
    parts p = (Text.splitAt (· = '/') a).map String.ofList ++
      (Text.splitAt (· = '/') b).map String.ofList := by
  rw [parts, h, Text.splitAt_append (by decide), List.map_append]

theorem parts_of_name (hname : '/' ∉ name.toList) : parts name = [name] := by
  rw [parts, Text.splitAt_of_forall]
  · simp
  · intro c hc
    exact decide_eq_false fun h ↦ hname (h ▸ hc)

theorem parts_child (dir : Path) (hname : '/' ∉ name.toList) : ∃ front behind, parts dir = front ++ behind ∧
    (∀ x ∈ behind, isIdle x = true) ∧ parts (child dir name) = front ++ [name] := by
  have hsplit := parts_of_name hname
  rw [parts] at hsplit
  -- an empty path and one that ends with a separator get no separator before the name
  by_cases hempty : dir = ""
  · subst hempty
    refine ⟨[], [""], rfl, by decide, ?_⟩
    rw [child, if_pos (.inl rfl), String.empty_append, parts_of_name hname]
    rfl
  · by_cases hlast : dir.toList.getLast? = some '/'
    · obtain ⟨front, hfront⟩ := List.getLast?_eq_some_iff.1 hlast
      refine ⟨(Text.splitAt (· = '/') front).map String.ofList, [""], parts_of_toList hfront,
        by decide, ?_⟩
      rw [child, if_pos (.inr hlast), parts_of_toList (a := front) (b := name.toList), hsplit]
      rw [String.toList_append, hfront, List.append_assoc, List.singleton_append]
    · refine ⟨parts dir, [], (List.append_nil _).symm, by simp, ?_⟩
      rw [child, if_neg (by simp [hempty, hlast]),
        parts_of_toList (a := dir.toList) (b := name.toList), hsplit]
      · rfl
      · rw [String.toList_append, String.toList_append, List.append_assoc]
        rfl

theorem child_eq_append (dir name : Path) : ∃ rest, child dir name = dir ++ rest := by
  rw [child]
  split
  · exact ⟨name, rfl⟩
  · exact ⟨"/" ++ name, String.append_assoc⟩

theorem isAbsolute_append (h : isAbsolute dir = true) (rest : String) :
    isAbsolute (dir ++ rest) = true := by
  simp only [isAbsolute, decide_eq_true_eq] at h ⊢
  rw [String.toList_append, List.head?_append, h]
  rfl

theorem ne_empty_of_isAbsolute (h : isAbsolute p = true) : p ≠ "" := by
  rintro rfl
  exact absurd h (by decide)

end Path

namespace FileTree

variable {t t' : FileTree} {p dir : Path} {s : Seat}

theorem Extends.rooted (h : Extends t t') (dir : Path) : t'.rooted dir = t.rooted dir := by
  rw [FileTree.rooted, FileTree.rooted, h.workingDirectory]

theorem isAbsolute_rooted (t : FileTree) (dir : Path) : Path.isAbsolute (t.rooted dir) = true := by
  rw [rooted]
  split_ifs with habsolute
  · exact habsolute
  · obtain ⟨rest, hrest⟩ := Path.child_eq_append t.workingDirectory.path dir
    rw [hrest]
    apply Path.isAbsolute_append
    rw [Path.isAbsolute, Location.path, String.toList_append]
    rfl

theorem exists_kept_child {name : String} (dir : Path) (hslash : '/' ∉ name.toList) (hname : name ≠ "") :
    ∃ front behind, Path.parts dir = front ++ behind ∧ (∀ x ∈ behind, Path.isIdle x = true) ∧
      kept (Path.child dir name) = front ++ [name] := by
  obtain ⟨front, behind, hparts, hidle, hchild⟩ := Path.parts_child dir hslash
  refine ⟨front, behind, hparts, hidle, ?_⟩
  rw [kept, hchild, List.reverse_append, List.reverse_singleton, List.singleton_append,
    List.dropWhile_cons_of_neg (by simpa using hname), List.reverse_cons, List.reverse_reverse]

def lastName (p : Path) : String := (kept p).getLast?.getD ""

theorem lastName_child {name : String} (dir : Path) (hslash : '/' ∉ name.toList) (hname : name ≠ "") :
    lastName (Path.child dir name) = name := by
  obtain ⟨front, behind, -, -, hkept⟩ := exists_kept_child dir hslash hname
  rw [lastName, hkept, List.getLast?_concat, Option.getD_some]

theorem name_of_seat (h : t.seat p = .ok s) : s.name = lastName p := by
  obtain ⟨-, -, -, -, hname, -⟩ := seat_ok_iff.1 h
  exact hname

theorem not_mem_letters (l : Letters) : '/' ∉ l.text.toList :=
  fun hslash ↦ absurd (l.plain '/' hslash) (by decide)

section

variable (t dir) (before after : String) (tries n : Nat)

theorem createFresh.go_zero : go t dir before after 0 n = .error (.manyNames, t.rooted dir) := by
  exact rfl

theorem createFresh.go_succ : go t dir before after (tries + 1) n =
    match t.create (t.freshPath dir before after n) (.file 0o600 "") with
    | .ok t' => .ok (t.freshPath dir before after n, { t' with serial := n + 1 })
    | .error .exists => go t dir before after tries (n + 1)
    | .error fault => .error (fault, t.freshPath dir before after n) := by
  exact rfl

end

theorem of_createFresh_ok {before after : String}
    (h : t.createFresh dir before after = .ok (p, t')) :
    ∃ n made, t.serial ≤ n ∧ p = t.freshPath dir before after n ∧
      t.create p (.file 0o600 "") = .ok made ∧ t' = { made with serial := n + 1 } := by
  rw [createFresh] at h
  generalize t.names.tries = tries at h
  generalize t.serial = n at h ⊢
  -- over all numbers, since each try goes on with the next one
  induction tries generalizing n with
  | zero =>
    rw [createFresh.go_zero] at h
    cases h
  | succ tries ih =>
    rw [createFresh.go_succ] at h
    split at h
    · cases h
      exact ⟨n, _, Nat.le_refl n, rfl, ‹_›, rfl⟩
    · obtain ⟨m, made, hm, hrest⟩ := ih _ h
      exact ⟨m, made, Nat.le_of_succ_le hm, hrest⟩
    · cases h

theorem accept_of_append {rest : String} (hp : p ≠ "") (h : accept (p ++ rest) = .ok ()) :
    accept p = .ok () := by
  unfold accept at h ⊢
  split_ifs at h with hnul hempty hlong
  have hnul' : ¬(p.toList.any fun c ↦ decide (c.toNat = 0)) = true := by
    intro hany
    rw [String.toList_append, List.any_append, hany] at hnul
    exact hnul rfl
  have hlong' : ¬longestPath < p.utf8ByteSize := by
    rw [String.utf8ByteSize_append] at hlong
    omega
  rw [if_neg hnul', if_neg hp, if_neg hlong']

/-- The last name of a path could be made, and not only as a directory. -/
structure Vacant (t : FileTree) (p : Path) (s : Seat) : Prop where
  seat : t.seat p = .ok s
  proper : s.isProper = true
  free : t.entry? s.location = none
  opened : s.closed = false

theorem exists_vacant {e : Entry} (he : ¬e.IsDirectory) (h : t.create p e = .ok t') :
    ∃ s, Vacant t p s ∧ t' = t.set s.location e := by
  obtain ⟨s, hseat, hproper, hfree, hend, hset⟩ := of_create_ok h
  exact ⟨s, ⟨hseat, hproper, hfree, hend.resolve_right he⟩, hset⟩

/-- The file is made in the tree as it was, where the numbers for names have gone on. -/
theorem exists_vacant_of_createFresh_ok {before after : String}
    (h : t.createFresh dir before after = .ok (p, t')) :
    ∃ n s, t.serial ≤ n ∧ p = t.freshPath dir before after n ∧ Vacant { t with serial := n + 1 } p s ∧
      t' = ({ t with serial := n + 1 } : FileTree).set s.location (.file 0o600 "") := by
  obtain ⟨n, made, hn, hp, hcreate, rfl⟩ := of_createFresh_ok h
  have hfile : ¬(Entry.file 0o600 "").IsDirectory := by
    rintro ⟨mode, hmode⟩
    cases hmode
  obtain ⟨s, hvacant, rfl⟩ := exists_vacant hfile hcreate
  have hsame : AddsDirectories t { t with serial := n + 1 } := .of_entries rfl rfl
  refine ⟨n, s, hn, hp, ?_, rfl⟩
  exact ⟨hsame.seat hvacant.seat, hvacant.proper, hvacant.free, hvacant.opened⟩

theorem vacant_of_createFresh_ok {before after : String}
    (h : t.createFresh dir before after = .ok (p, t')) :
    ∃ n base s, p = t.freshPath dir before after n ∧ AddsDirectories t base ∧ Vacant base p s ∧
      t' = base.set s.location (.file 0o600 "") := by
  obtain ⟨n, s, -, hp, hvacant, ht'⟩ := exists_vacant_of_createFresh_ok h
  exact ⟨n, { t with serial := n + 1 }, s, hp, .of_entries rfl rfl, hvacant, ht'⟩

theorem discard_of_seat {mode : Nat} {content : String} (hseat : t.seat p = .ok s)
    (hproper : s.isProper = true) (hopened : s.closed = false)
    (hentry : t.entry? s.location = some (.file mode content)) : t.discard p = t.unset s.location := by
  have hremove : t.remove p = .ok (t.unset s.location) := by
    rw [remove, hseat]
    change (if _ then _ else _) = _
    rw [hproper, hentry, if_neg (by decide)]
    change (if s.closed = true then _ else _) = _
    rw [hopened, if_neg Bool.false_ne_true]
    rfl
  rw [discard, hremove]
  rfl

theorem set_set (t : FileTree) (l : Location) (e e' : Entry) : (t.set l e).set l e' = t.set l e' := by
  have hentries : (t.entries.insert l e).insert l e' = t.entries.insert l e' := by
    apply Std.ExtTreeMap.ext_getElem?
    intro k
    simp only [Std.ExtTreeMap.getElem?_insert]
    split <;> rfl
  simp only [set, hentries]

theorem unset_of_free {l : Location} (h : t.entry? l = none) : t.unset l = t := by
  have hfree : t.entries[l]? = none := by
    rwa [FileTree.entry?, if_neg (ne_root h)] at h
  have hentries : t.entries.erase l = t.entries := by
    apply Std.ExtTreeMap.ext_getElem?
    intro k
    rw [Std.ExtTreeMap.getElem?_erase]
    split_ifs with hk
    · rw [← Std.LawfulEqCmp.compare_eq_iff_eq.1 hk, hfree]
    · rfl
  simp only [unset, hentries]

namespace Vacant

theorem locate (h : Vacant t p s) {e : Entry} (he : ∀ target, e ≠ .link target) :
    (t.set s.location e).locate p = .ok s.location :=
  locate_set h.seat h.proper h.free he (.inl h.opened)

theorem locate_file (h : Vacant t p s) (mode : Nat) (content : String) :
    (t.set s.location (.file mode content)).locate p = .ok s.location := by
  apply h.locate
  intro target hlink
  cases hlink

theorem setMode (h : Vacant t p s) (mode mode' : Nat) (content : String) :
    (t.set s.location (.file mode content)).setMode p mode' = match t.disk.fixed? s.location with
      | none => .ok (t.set s.location (.file mode' content))
      | some fault => .error fault := by
  have hdisk : (t.set s.location (.file mode content)).disk = t.disk := rfl
  simp only [FileTree.setMode, h.locate_file, Bind.bind, Except.bind, hdisk]
  cases t.disk.fixed? s.location with
  | none =>
    simp only [entry?_set_self h.free, set_set]
    rfl
  | some fault => rfl

theorem write (h : Vacant t p s) (mode : Nat) (content content' : String) :
    (t.set s.location (.file mode content)).write p content' =
      .ok (t.set s.location (.file mode content')) := by
  simp only [FileTree.write, h.locate_file, Bind.bind, Except.bind, entry?_set_self h.free, set_set]
  rfl

theorem writeAll (h : Vacant t p s) (mode : Nat) (content content' : String) :
    (FileTree.writeAll p content').outcome (t.set s.location (.file mode content)) =
      match t.disk.full? s.location with
      | none => (.ok (), t.set s.location (.file mode content'))
      | some (fault, taken) =>
        (.error fault, t.set s.location (.file mode (String.ofList (content'.toList.take taken)))) := by
  have hshortage : (t.set s.location (.file mode content)).shortage? p = t.disk.full? s.location := by
    rw [shortage?, h.locate_file]
    rfl
  simp only [FileTree.writeAll, Action.outcome_bind, Action.outcome_get, hshortage]
  cases t.disk.full? s.location with
  | none => simp only [Action.atomically, Action.outcome_ofOutcome, h.write]
  | some shortage =>
    simp only [Action.atomically, Action.outcome_bind, Action.outcome_ofOutcome, h.write]
    rfl

theorem discard (h : Vacant t p s) {mode : Nat} {content : String}
    (hextends : Extends (t.set s.location (.file mode content)) t') :
    t'.discard p = t'.unset s.location :=
  discard_of_seat (hextends.seat ((extends_set h.free (.file mode content)).seat h.seat)) h.proper h.opened
    (hextends.kept _ _ (entry?_set_self h.free (.file mode content)))

/-- What has been there since before a file was made is there after its removal, and all that was added
but the file. -/
theorem discard_within {new : Location → Entry → Prop} {first : FileTree} (hbefore : Grows new first t)
    (h : Vacant t p s) {mode : Nat} {content : String}
    (hafter : Grows new (t.set s.location (.file mode content)) t') : Grows new first (t'.discard p) := by
  have hmade : Grows (fun k e ↦ k = s.location ∨ new k e) t (t.set s.location (.file mode content)) :=
    (grows_set h.free _).mono fun _ _ hnew ↦ .inl hnew.1
  have hlater : Grows (fun k e ↦ k = s.location ∨ new k e) (t.set s.location (.file mode content)) t' :=
    hafter.mono fun _ _ ↦ .inr
  rw [h.discard hafter.toExtends]
  exact hbefore.trans ((hmade.trans hlater).unset h.free)

theorem locate_directory {name : String} (h : Vacant t (Path.child dir name) s)
    (hdir : Path.isAbsolute dir = true) (hslash : '/' ∉ name.toList) (hname : name ≠ "") :
    t.locate dir = .ok s.directory := by
  obtain ⟨haccept, hfollow, hthere, -⟩ := seat_ok_iff.1 h.seat
  obtain ⟨front, behind, hparts, hidle, hkept⟩ := exists_kept_child dir hslash hname
  obtain ⟨rest, hrest⟩ := Path.child_eq_append dir name
  rw [hkept, List.dropLast_concat, start, if_pos (hrest ▸ Path.isAbsolute_append hdir rest)]
    at hfollow
  -- what separators at the end of the directory's path add to its parts leads nowhere else
  obtain ⟨links, hlinks⟩ := follow_append hfollow behind
  rw [FileTree.locate, accept_of_append (Path.ne_empty_of_isAbsolute hdir) (hrest ▸ haccept), start,
    if_pos hdir, hparts]
  exact hlinks.trans (follow_arrived (walk_idle hthere hidle))

theorem locate_rooted {before after : String} {n : Nat} (h : Vacant t (t.freshPath dir before after n) s)
    (hbefore : '/' ∉ before.toList) (hafter : '/' ∉ after.toList) (hname : before ≠ "") :
    t.locate (t.rooted dir) = .ok s.directory := by
  refine Vacant.locate_directory h (isAbsolute_rooted t dir) ?_ (by simp [hname])
  simp [String.toList_append, not_mem_letters, hbefore, hafter]

end Vacant

end FileTree

end RealmDriver
