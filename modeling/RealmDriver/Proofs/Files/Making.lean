import Mathlib.Tactic.SplitIfs
import RealmDriver.Files.Tree
import RealmDriver.Proofs.Action
import RealmDriver.Proofs.Text.Blank

namespace RealmDriver.FileTree

variable {t t' : FileTree} {l d loc : Location} {p : Path} {xs ys : List String}

structure Extends (t t' : FileTree) : Prop where
  kept : ∀ k e, t.entry? k = some e → FileTree.entry? t' k = some e
  workingDirectory : t'.workingDirectory = t.workingDirectory

theorem ne_root (hloc : t.entry? loc = none) : loc ≠ [] := by
  rintro rfl
  cases hloc

theorem entry?_set (hloc : loc ≠ []) (e : Entry) (k : Location) :
    FileTree.entry? (t.set loc e) k = if loc = k then some e else t.entry? k := by
  simp only [FileTree.entry?, set, Std.ExtTreeMap.getElem?_insert, Std.LawfulEqCmp.compare_eq_iff_eq]
  by_cases hk : loc = k
  · rw [if_pos hk, if_pos hk, if_neg (hk ▸ hloc)]
  · rw [if_neg hk, if_neg hk]

theorem entry?_set_self (hloc : t.entry? loc = none) (e : Entry) :
    FileTree.entry? (t.set loc e) loc = some e := by
  rw [entry?_set (ne_root hloc), if_pos rfl]

theorem extends_set (hloc : t.entry? loc = none) (e : Entry) : Extends t (t.set loc e) where
  kept k e' hk := by
    rw [entry?_set (ne_root hloc), if_neg]
    · exact hk
    · rintro rfl
      rw [hloc] at hk
      cases hk
  workingDirectory := rfl

theorem follow_arrived {links : Nat} (hwalk : t.walk l xs = .arrived d) :
    t.follow links l xs = .ok d := by
  unfold follow
  rw [hwalk]

theorem follow_detour {links : Nat} {l' : Location} {target : Path} {rest : List String}
    (hwalk : t.walk l xs = .detour l' target rest) :
    t.follow (links + 1) l xs =
      t.follow links (if Path.isAbsolute target then [] else l') (Path.parts target ++ rest) := by
  conv => lhs; unfold follow
  rw [hwalk]

theorem of_follow_ok {links : Nat} (hfollow : t.follow links l xs = .ok d) :
    t.walk l xs = .arrived d ∨ ∃ links' l' target rest, links = links' + 1 ∧
      t.walk l xs = .detour l' target rest ∧
      t.follow links' (if Path.isAbsolute target then [] else l') (Path.parts target ++ rest) = .ok d := by
  unfold follow at hfollow
  split at hfollow
  · rename_i hwalk
    cases hfollow
    exact .inl hwalk
  · cases hfollow
  · cases hfollow
  · rename_i hwalk
    exact .inr ⟨_, _, _, _, rfl, hwalk, hfollow⟩

def kept (p : Path) : List String := ((Path.parts p).reverse.dropWhile (· = "")).reverse

theorem seat_ok_iff {s : Seat} : t.seat p = .ok s ↔
    accept p = .ok () ∧ t.follow mostLinks (t.start p) (kept p).dropLast = .ok s.directory ∧
      t.hasDirectory s.directory = true ∧ t.isOverlong s.directory s.name = false ∧
      s.name = (kept p).getLast?.getD "" ∧ s.closed = decide ((kept p).length < (Path.parts p).length) := by
  rw [seat]
  constructor
  · intro hseat
    obtain ⟨_, haccept, hseat⟩ := Except.bind_ok_iff.1 hseat
    obtain ⟨directory, hfollow, hseat⟩ := Except.bind_ok_iff.1 hseat
    obtain ⟨hdir, hseat⟩ := Except.guard_ok_iff.1 hseat
    obtain ⟨hlong, hseat⟩ := Except.guard_ok_iff.1 hseat
    cases hseat
    exact ⟨haccept, hfollow, by simpa using hdir, by simpa using hlong, rfl, rfl⟩
  · obtain ⟨directory, name, closed⟩ := s
    rintro ⟨haccept, hfollow, hdir, hlong, rfl, rfl⟩
    refine Except.bind_ok_iff.2 ⟨(), haccept, Except.bind_ok_iff.2 ⟨directory, hfollow, ?_⟩⟩
    exact Except.guard_ok_iff.2 ⟨by simp [hdir], Except.guard_ok_iff.2 ⟨Bool.eq_false_iff.1 hlong, rfl⟩⟩

theorem hasDirectory_of_file {mode : Nat} {content : String}
    (hentry : t.entry? l = some (.file mode content)) : t.hasDirectory l = false := by
  rw [hasDirectory, hentry]

theorem walk_file {mode : Nat} {content : String} (hentry : t.entry? l = some (.file mode content))
    (hwalk : ∀ fault, t.walk l xs ≠ .refused fault) : t.walk l xs = .arrived l := by
  cases xs with
  | nil => rfl
  | cons part rest =>
    rw [walk, hasDirectory_of_file hentry] at hwalk
    exact absurd rfl (hwalk .notDirectory)

/-- What is lost of the first tree at some places are files, and everything else is also in the second one. -/
structure LosesFiles (lost : Location → Prop) (t t' : FileTree) : Prop where
  kept : ∀ k e, t.entry? k = some e → ¬lost k → FileTree.entry? t' k = some e
  files : ∀ k, lost k → ∃ mode content, t.entry? k = some (.file mode content)
  workingDirectory : t'.workingDirectory = t.workingDirectory

namespace LosesFiles

variable {lost : Location → Prop}

theorem not_lost (h : LosesFiles lost t t') (hl : t.hasDirectory l = true) : ¬lost l := by
  intro hlost
  obtain ⟨mode, content, hentry⟩ := h.files l hlost
  rw [hasDirectory_of_file hentry] at hl
  cases hl

theorem hasDirectory (h : LosesFiles lost t t') (hl : t.hasDirectory l = true) :
    t'.hasDirectory l = true := by
  have hkept := h.not_lost hl
  rw [FileTree.hasDirectory] at hl
  split at hl
  · rename_i hentry
    rw [FileTree.hasDirectory, h.kept _ _ hentry hkept]
  · rename_i hentry
    rw [FileTree.hasDirectory, h.kept _ _ hentry hkept]
  · cases hl

theorem isOverlong (h : LosesFiles lost t t') (hl : t.hasDirectory l = true) (name : String) :
    t'.isOverlong l name = t.isOverlong l name := by
  have hkept := h.not_lost hl
  rw [FileTree.hasDirectory] at hl
  split at hl
  · rename_i hentry
    rw [FileTree.isOverlong, FileTree.isOverlong, hentry, h.kept _ _ hentry hkept]
  · rename_i hentry
    rw [FileTree.isOverlong, FileTree.isOverlong, hentry, h.kept _ _ hentry hkept]
  · cases hl

/-- A walk that ends somewhere, but not at a file that is lost, has passed none, so it goes the same way. -/
theorem walk (h : LosesFiles lost t t') (hw : ∀ fault, t.walk l xs ≠ .refused fault)
    (hd : ∀ d, t.walk l xs = .arrived d → ¬lost d) : t'.walk l xs = t.walk l xs := by
  induction xs generalizing l with
  | nil => rfl
  | cons part rest ih =>
    rw [FileTree.walk] at hw hd
    rw [FileTree.walk, FileTree.walk]
    by_cases hdir : t.hasDirectory l = true
    · simp only [hdir, h.hasDirectory hdir, h.isOverlong hdir, Bool.not_true, Bool.false_eq_true,
        if_false] at hw hd ⊢
      split_ifs at hw hd ⊢ with hidle hdots hlong
      · exact ih hw hd
      · exact ih hw hd
      · exact absurd rfl (hw _)
      · cases hentry : t.entry? (l ++ [part]) with
        | none =>
          rw [hentry] at hw
          exact absurd rfl (hw _)
        | some e =>
          have hkept : ¬lost (l ++ [part]) := by
            intro hlost
            obtain ⟨mode, content, hfile⟩ := h.files _ hlost
            rw [hfile] at hw hd
            exact hd _ (walk_file hfile hw) hlost
          rw [hentry] at hw hd
          rw [h.kept _ _ hentry hkept]
          cases e with
          | link target => rfl
          | directory mode => exact ih hw hd
          | kernel => exact ih hw hd
          | file mode content => exact ih hw hd
          | socket => exact ih hw hd
    · simp only [hdir, Bool.not_false, if_true] at hw
      exact absurd rfl (hw _)

theorem follow (h : LosesFiles lost t t') {links : Nat} (hfollow : t.follow links l xs = .ok d)
    (hd : ¬lost d) : t'.follow links l xs = .ok d := by
  induction links generalizing l xs with
  | zero =>
    rcases of_follow_ok hfollow with hwalk | ⟨_, _, _, _, hlinks, -⟩
    · rw [follow_arrived (by rw [h.walk (by simp [hwalk]) (by simpa [hwalk] using hd), hwalk])]
    · cases hlinks
  | succ links ih =>
    rcases of_follow_ok hfollow with hwalk | ⟨_, l', target, rest, hlinks, hwalk, hrest⟩
    · rw [follow_arrived (by rw [h.walk (by simp [hwalk]) (by simpa [hwalk] using hd), hwalk])]
    · cases hlinks
      rw [follow_detour (by rw [h.walk (by simp [hwalk]) (by simp [hwalk]), hwalk])]
      exact ih hrest

theorem start (h : LosesFiles lost t t') (p : Path) : t'.start p = t.start p := by
  rw [FileTree.start, FileTree.start, h.workingDirectory]

theorem locate (h : LosesFiles lost t t') (hlocate : t.locate p = .ok loc) (hloc : ¬lost loc) :
    t'.locate p = .ok loc := by
  rw [FileTree.locate] at hlocate ⊢
  obtain ⟨_, haccept, hfollow⟩ := Except.bind_ok_iff.1 hlocate
  rw [haccept, h.start]
  exact h.follow hfollow hloc

theorem seat (h : LosesFiles lost t t') {s : Seat} (hseat : t.seat p = .ok s) : t'.seat p = .ok s := by
  obtain ⟨haccept, hfollow, hdir, hlong, hname, hclosed⟩ := seat_ok_iff.1 hseat
  refine seat_ok_iff.2 ⟨haccept, ?_, h.hasDirectory hdir, ?_, hname, hclosed⟩
  · rw [h.start]
    exact h.follow hfollow (h.not_lost hdir)
  · rw [h.isOverlong hdir, hlong]

end LosesFiles

namespace Extends

theorem losesFiles (h : Extends t t') : LosesFiles (fun _ ↦ False) t t' where
  kept k e hk _ := h.kept k e hk
  files _ hfalse := hfalse.elim
  workingDirectory := h.workingDirectory

theorem locate (h : Extends t t') (hlocate : t.locate p = .ok loc) : t'.locate p = .ok loc :=
  h.losesFiles.locate hlocate not_false

theorem seat (h : Extends t t') {s : Seat} (hseat : t.seat p = .ok s) : t'.seat p = .ok s :=
  h.losesFiles.seat hseat

end Extends

theorem walk_append (xs ys : List String) : t.walk l (xs ++ ys) = match t.walk l xs with
    | .arrived d => t.walk d ys
    | .detour d target rest => .detour d target (rest ++ ys)
    | .refused fault => .refused fault := by
  induction xs generalizing l with
  | nil => rfl
  | cons part rest ih =>
    rw [List.cons_append, walk, walk]
    by_cases hdir : t.hasDirectory l = true
    · simp only [hdir, Bool.not_true, Bool.false_eq_true, if_false]
      split_ifs with hidle hdots hlong
      · exact ih
      · exact ih
      · rfl
      · cases t.entry? (l ++ [part]) with
        | none => rfl
        | some e => cases e <;> first | rfl | exact ih
    · simp only [hdir, Bool.not_false, if_true]

/-- On the way on from where a path leads, fewer links may be left to follow. -/
theorem follow_append {links : Nat} (hfollow : t.follow links l xs = .ok d) (ys : List String) :
    ∃ links', t.follow links l (xs ++ ys) = t.follow links' d ys := by
  induction links generalizing l xs with
  | zero =>
    rcases of_follow_ok hfollow with hwalk | ⟨_, _, _, _, hlinks, -⟩
    · refine ⟨0, ?_⟩
      unfold follow
      rw [walk_append, hwalk]
    · cases hlinks
  | succ links ih =>
    rcases of_follow_ok hfollow with hwalk | ⟨_, l', target, rest, hlinks, hwalk, hrest⟩
    · refine ⟨links + 1, ?_⟩
      unfold follow
      rw [walk_append, hwalk]
    · cases hlinks
      obtain ⟨links', hlinks'⟩ := ih hrest
      refine ⟨links', ?_⟩
      rw [follow_detour (by rw [walk_append, hwalk]), ← List.append_assoc, hlinks']

theorem exists_follow_prefix {links : Nat} (hfollow : t.follow links l (xs ++ ys) = .ok d) :
    ∃ d', t.follow links l xs = .ok d' := by
  induction links generalizing l xs with
  | zero =>
    rcases of_follow_ok hfollow with hwalk | ⟨_, _, _, _, hlinks, -⟩
    · rw [walk_append] at hwalk
      cases hfront : t.walk l xs with
      | arrived d' => exact ⟨d', follow_arrived hfront⟩
      | refused fault => simp [hfront] at hwalk
      | detour l' target rest => simp [hfront] at hwalk
    · cases hlinks
  | succ links ih =>
    cases hfront : t.walk l xs with
    | arrived d' => exact ⟨d', follow_arrived hfront⟩
    | refused fault =>
      rcases of_follow_ok hfollow with hwalk | ⟨_, _, _, _, -, hwalk, -⟩
      · simp [walk_append, hfront] at hwalk
      · simp [walk_append, hfront] at hwalk
    | detour l' target rest =>
      rw [follow_detour (by rw [walk_append, hfront]), ← List.append_assoc] at hfollow
      rw [follow_detour hfront]
      exact ih hfollow

theorem walk_cons {part : String} (hwalk : ∀ fault, t.walk l (part :: xs) ≠ .refused fault) :
    t.hasDirectory l = true ∧ (Path.isIdle part = true ∨ part = ".." ∨
      t.isOverlong l part = false ∧ (t.entry? (l ++ [part])).isSome = true) := by
  rw [walk] at hwalk
  split_ifs at hwalk with hdir hidle hdots hlong
  · exact absurd rfl (hwalk _)
  · exact ⟨by simpa using hdir, .inl hidle⟩
  · exact ⟨by simpa using hdir, .inr (.inl hdots)⟩
  · exact absurd rfl (hwalk _)
  · refine ⟨by simpa using hdir, .inr (.inr ⟨by simpa using hlong, ?_⟩)⟩
    rw [Option.isSome_iff_ne_none]
    intro hnone
    rw [hnone] at hwalk
    exact absurd rfl (hwalk _)

theorem not_refused_of_follow_ok {links : Nat} (hfollow : t.follow links l xs = .ok d)
    (fault : SystemFault) : t.walk l xs ≠ .refused fault := by
  rcases of_follow_ok hfollow with hwalk | ⟨_, _, _, _, -, hwalk, -⟩
  · simp [hwalk]
  · simp [hwalk]

theorem walk_idle (hdir : t.hasDirectory l = true) (hidle : ∀ x ∈ xs, Path.isIdle x = true) :
    t.walk l xs = .arrived l := by
  induction xs with
  | nil => rfl
  | cons x xs ih =>
    rw [List.forall_mem_cons] at hidle
    rw [walk, hdir, hidle.1, if_neg (by simp), if_pos rfl, ih hidle.2]

theorem of_create_ok {e : Entry} (hcreate : t.create p e = .ok t') :
    ∃ s, t.seat p = .ok s ∧ s.isProper = true ∧ t.entry? s.location = none ∧
      (s.closed = false ∨ ∃ mode, e = .directory mode) ∧ t' = t.set s.location e := by
  rw [create] at hcreate
  obtain ⟨s, hseat, hcreate⟩ := Except.bind_ok_iff.1 hcreate
  obtain ⟨hfree, hcreate⟩ := Except.guard_ok_iff.1 hcreate
  obtain ⟨-, hcreate⟩ := Except.guard_ok_iff.1 hcreate
  simp only [Bool.or_eq_true, Bool.not_eq_true', not_or, Bool.not_eq_false, Option.not_isSome_iff_eq_none]
    at hfree
  refine ⟨s, hseat, hfree.1, hfree.2, ?_⟩
  split at hcreate
  · cases hcreate
    exact ⟨.inr ⟨_, rfl⟩, rfl⟩
  · split_ifs at hcreate with hclosed
    cases hcreate
    exact ⟨.inl (by simpa using hclosed), rfl⟩

theorem parts_eq (p : Path) :
    ∃ behind, Path.parts p = kept p ++ behind ∧ ∀ x ∈ behind, Path.isIdle x = true := by
  refine ⟨((Path.parts p).reverse.takeWhile (· = "")).reverse, ?_, fun x hx ↦ ?_⟩
  · rw [kept, ← List.reverse_append, List.takeWhile_append_dropWhile, List.reverse_reverse]
  · have hempty := List.all_eq_true.1 List.all_takeWhile x (List.mem_reverse.1 hx)
    rw [of_decide_eq_true hempty]
    rfl

theorem kept_of_proper {s : Seat} (hname : s.name = (kept p).getLast?.getD "")
    (hproper : s.isProper = true) : kept p = (kept p).dropLast ++ [s.name] := by
  have hne : kept p ≠ [] := by
    intro hnil
    rw [hnil] at hname
    rw [Seat.isProper, hname] at hproper
    exact absurd hproper (by decide)
  rw [hname, List.getLast?_eq_some_getLast hne, Option.getD_some, List.dropLast_concat_getLast]

theorem locate_of_seat {s : Seat} {e : Entry} (hseat : t.seat p = .ok s) (hproper : s.isProper = true)
    (hentry : t.entry? s.location = some e) (hlink : ∀ target, e ≠ .link target)
    (hend : s.closed = false ∨ ∃ mode, e = .directory mode) : t.locate p = .ok s.location := by
  obtain ⟨haccept, hfollow, hdir, hlong, hname, hclosed⟩ := seat_ok_iff.1 hseat
  obtain ⟨behind, hparts, hidle⟩ := parts_eq p
  have hrest : t.walk s.location behind = .arrived s.location := by
    rcases hend with hopen | ⟨mode, rfl⟩
    · have hlength := congrArg List.length hparts
      rw [List.length_append] at hlength
      have hnot : ¬(kept p).length < (Path.parts p).length := by simpa [hopen] using hclosed
      have hnil : behind = [] := List.eq_nil_of_length_eq_zero (by omega)
      rw [hnil, walk]
    · have hthere : t.hasDirectory s.location = true := by
        rw [hasDirectory, hentry]
      exact walk_idle hthere hidle
  have hwalk : t.walk s.directory (s.name :: behind) = .arrived s.location := by
    have hproper' := hproper
    simp only [Seat.isProper, Bool.and_eq_true, Bool.not_eq_true', decide_eq_true_eq] at hproper'
    rw [walk, hdir, hproper'.1, if_neg (by simp), if_neg (by simp), if_neg hproper'.2, hlong,
      if_neg (by simp)]
    simp only [Seat.location] at hentry hrest ⊢
    rw [hentry]
    cases e with
    | link target => exact absurd rfl (hlink target)
    | directory mode => exact hrest
    | kernel => exact hrest
    | file mode content => exact hrest
    | socket => exact hrest
  obtain ⟨links, hlinks⟩ := follow_append hfollow (s.name :: behind)
  rw [locate, haccept, hparts, kept_of_proper hname hproper, ← List.append_cons]
  exact hlinks.trans (follow_arrived hwalk)

theorem locate_set {s : Seat} {e : Entry} (hseat : t.seat p = .ok s) (hproper : s.isProper = true)
    (hfree : t.entry? s.location = none) (hlink : ∀ target, e ≠ .link target)
    (hend : s.closed = false ∨ ∃ mode, e = .directory mode) :
    (t.set s.location e).locate p = .ok s.location :=
  locate_of_seat ((extends_set hfree e).seat hseat) hproper (entry?_set_self hfree e) hlink hend

theorem isDirectory_of_create {mode : Nat} (hcreate : t.create p (.directory mode) = .ok t') :
    t'.isDirectory p = true := by
  obtain ⟨s, hseat, hproper, hfree, hend, rfl⟩ := of_create_ok hcreate
  have hlink : ∀ target, Entry.directory mode ≠ .link target := by
    intro target h
    cases h
  rw [isDirectory, locate_set hseat hproper hfree hlink hend]
  change (t.set s.location (.directory mode)).hasDirectory s.location = true
  rw [hasDirectory, entry?_set_self hfree]

theorem parts_ne_nil (p : Path) : Path.parts p ≠ [] := by
  rw [Path.parts, Ne, List.map_eq_nil_iff]
  exact Text.splitAt_ne_nil _ _

theorem isOverlong_short {name : String} (hname : name.utf8ByteSize ≤ longestName) :
    t.isOverlong l name = false := by
  rw [isOverlong, decide_eq_false (Nat.not_lt.2 hname), Bool.false_and]

theorem exists_seat (haccept : accept p = .ok ())
    (hfollow : t.follow mostLinks (t.start p) (Path.parts p) = .ok l) :
    ∃ s, t.seat p = .ok s ∧ (s.isProper = true → (t.entry? s.location).isSome = true) := by
  obtain ⟨behind, hparts, -⟩ := parts_eq p
  rcases List.eq_nil_or_concat (kept p) with hnil | ⟨front, name, hkept⟩
  · -- a path of separators alone, whose last name is empty
    obtain ⟨first, rest, hfirst⟩ := List.exists_cons_of_ne_nil (parts_ne_nil p)
    rw [hfirst] at hfollow
    obtain ⟨hdir, -⟩ := walk_cons (not_refused_of_follow_ok hfollow)
    have hlong : t.isOverlong (t.start p) "" = false := isOverlong_short (by decide)
    refine ⟨⟨t.start p, "", _⟩, seat_ok_iff.2 ⟨haccept, ?_, hdir, hlong, ?_, rfl⟩,
      fun h ↦ absurd h (by simp [Seat.isProper, Path.isIdle])⟩
    · rw [hnil]
      exact follow_arrived rfl
    · rw [hnil]
      rfl
  · rw [List.concat_eq_append] at hkept
    rw [hparts, hkept, List.append_assoc, List.singleton_append] at hfollow
    obtain ⟨d, hfront⟩ := exists_follow_prefix hfollow
    obtain ⟨links, hlinks⟩ := follow_append hfront (name :: behind)
    obtain ⟨hdir, hpart⟩ := walk_cons (not_refused_of_follow_ok (hlinks.symm.trans hfollow))
    -- the walk checks only names that are looked up, and the others are short
    have hlong : t.isOverlong d name = false := by
      rcases hpart with hidle | rfl | ⟨hlong, -⟩
      · simp only [Path.isIdle, Bool.or_eq_true, decide_eq_true_eq] at hidle
        rcases hidle with rfl | rfl
        · exact isOverlong_short (by decide)
        · exact isOverlong_short (by decide)
      · exact isOverlong_short (by decide)
      · exact hlong
    refine ⟨⟨d, name, _⟩, seat_ok_iff.2 ⟨haccept, ?_, hdir, hlong, ?_, rfl⟩, fun hproper ↦ ?_⟩
    · rw [hkept, List.dropLast_concat]
      exact hfront
    · rw [hkept, List.getLast?_concat, Option.getD_some]
    · simp only [Seat.isProper, Bool.and_eq_true, Bool.not_eq_true', decide_eq_true_eq] at hproper
      rcases hpart with hidle | hdots | ⟨-, htaken⟩
      · rw [hidle] at hproper
        cases hproper.1
      · exact absurd hdots hproper.2
      · exact htaken

theorem create_of_isDirectory {e : Entry} (hthere : t.isDirectory p = true) :
    t.create p e = .error .exists := by
  rw [isDirectory] at hthere
  cases hlocate : t.locate p with
  | error fault => simp [hlocate] at hthere
  | ok l =>
    rw [locate] at hlocate
    obtain ⟨_, haccept, hfollow⟩ := Except.bind_ok_iff.1 hlocate
    obtain ⟨s, hseat, hoccupied⟩ := exists_seat haccept hfollow
    have htaken : (!s.isProper || (t.entry? s.location).isSome) = true := by
      cases hproper : s.isProper with
      | false => rfl
      | true => rw [hoccupied hproper, Bool.or_true]
    rw [create, hseat]
    change (if _ then _ else _) = _
    rw [if_pos htaken]
    rfl

namespace createAll

variable {mode depth : Nat}

theorem unlessThere_outcome (p : Path) (fault : SystemFault) (t : FileTree) :
    (unlessThere p fault).outcome t = (if t.isDirectory p then .ok () else .error fault, t) := by
  simp only [unlessThere, Action.outcome_bind, Action.outcome_get]
  split_ifs with hthere
  · rfl
  · rfl

theorem attempt_make_outcome (p : Path) (t : FileTree) :
    ((make mode p).attempt : Action FileTree SystemFault _).outcome t =
      match t.create p (.directory mode) with
      | .ok t' => (.ok (.ok ()), t')
      | .error fault => (.ok (.error fault), t) := by
  rw [Action.outcome_attempt, make, Action.atomically, Action.outcome_ofOutcome]
  cases t.create p (.directory mode) with
  | ok t' => rfl
  | error fault => rfl

theorem isDirectory_of_unlessThere {fault : SystemFault}
    (h : (unlessThere p fault).outcome t = (.ok (), t')) : t'.isDirectory p = true := by
  rw [unlessThere_outcome] at h
  split_ifs at h with hthere
  · rwa [← (Prod.mk.inj h).2]
  · cases (Prod.mk.inj h).1

theorem go_of_create (hp : p ≠ "") (hcreate : t.create p (.directory mode) = .ok t') :
    (go mode depth p).outcome t = (.ok (), t') := by
  unfold go
  rw [if_neg hp, Action.outcome_bind, attempt_make_outcome, hcreate]
  rfl

theorem isDirectory_of_go (hp : p ≠ "") (hgo : (go mode depth p).outcome t = (.ok (), t')) :
    t'.isDirectory p = true := by
  cases hcreate : t.create p (.directory mode) with
  | ok made =>
    rw [go_of_create hp hcreate] at hgo
    rw [← (Prod.mk.inj hgo).2]
    exact isDirectory_of_create hcreate
  | error fault =>
    unfold go at hgo
    rw [if_neg hp, Action.outcome_bind, attempt_make_outcome, hcreate] at hgo
    simp only at hgo
    split at hgo
    · rename_i hok
      cases hok
    · split at hgo
      · obtain ⟨_, above, -, hgo⟩ := Action.of_outcome_bind_ok hgo
        rw [Action.outcome_bind, attempt_make_outcome] at hgo
        cases hcreate : above.create p (.directory mode) with
        | ok made =>
          rw [hcreate] at hgo
          rw [← (Prod.mk.inj hgo).2]
          exact isDirectory_of_create hcreate
        | error fault =>
          rw [hcreate] at hgo
          exact isDirectory_of_unlessThere hgo
      · cases hgo
    · exact isDirectory_of_unlessThere hgo

theorem go_of_isDirectory (hthere : t.isDirectory p = true) :
    (go mode depth p).outcome t = (.ok (), t) := by
  have hfault : t.create p (.directory mode) = .error .exists := create_of_isDirectory hthere
  unfold go
  split_ifs with hp
  · rfl
  · rw [Action.outcome_bind, attempt_make_outcome, hfault]
    change (unlessThere p .exists).outcome t = _
    rw [unlessThere_outcome, if_pos hthere]

end createAll

/-- A directory that was made with those above it is there, and making it again changes nothing. -/
theorem createAll_again {mode : Nat} (hmade : (createAll mode p).outcome t = (.ok (), t')) :
    (createAll mode p).outcome t' = (.ok (), t') := by
  by_cases hp : p = ""
  · subst hp
    unfold createAll createAll.go
    rfl
  · exact createAll.go_of_isDirectory (createAll.isDirectory_of_go hp hmade)

end RealmDriver.FileTree
