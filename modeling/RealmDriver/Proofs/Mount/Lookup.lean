import Mathlib.Data.Finset.Max
import RealmDriver.Mount.Host
import RealmDriver.Proofs.Mount.KernelTable

namespace RealmDriver

namespace KernelMount

variable {l : Location} {p d : Path} {n : String}

theorem toList_shown (s : String) : (shown s).toList = written s.toList := String.toList_ofList

theorem written_intercalate {between : Char} (hbetween : between ∉ coded) (pieces : List (List Char)) :
    written ([between].intercalate pieces) = [between].intercalate (pieces.map written) := by
  induction pieces with
  | nil => rfl
  | cons first pieces ih =>
    cases pieces with
    | nil => simp only [List.map_singleton, List.intercalate_singleton]
    | cons second pieces =>
      rw [List.map_cons] at ih
      rw [List.map_cons, List.map_cons, List.intercalate_cons_cons, List.intercalate_cons_cons,
        written_append, written_append, ih]
      congr 2
      exact written_of_not_coded (List.forall_mem_singleton.2 hbetween)

theorem shown_path (l : Location) : shown l.path = Location.path (l.map shown) := by
  refine String.toList_injective ?_
  have hslash : writtenChar '/' = ['/'] := by decide
  rw [toList_shown, Location.toList_path, Location.toList_path, written_cons, hslash,
    List.singleton_append, written_intercalate (by decide), List.map_map, List.map_map]
  congr 2
  exact List.map_congr_left fun n _ ↦ (toList_shown n).symm

theorem eq_of_written {cs ds : List Char} (h : written cs = ds) (hds : '\\' ∉ ds) : cs = ds := by
  have hplain : ∀ c ∈ cs, c ∉ coded :=
    fun c hc hcoded ↦ hds (h ▸ backslash_mem_written.2 ⟨c, hc, hcoded⟩)
  rw [← h, written_of_not_coded hplain]

theorem eq_of_shown {s t : String} (h : shown s = t) (ht : '\\' ∉ t.toList) : s = t :=
  String.toList_injective (eq_of_written (by rw [← toList_shown, h]) ht)

theorem isName_shown (hn : Path.IsName n) : Path.IsName (shown n) where
  ne_empty h := hn.ne_empty (eq_of_shown h (by decide))
  ne_dot h := hn.ne_dot (eq_of_shown h (by decide))
  ne_dots h := hn.ne_dots (eq_of_shown h (by decide))
  no_slash h := by
    rw [toList_shown] at h
    rcases of_mem_written h with h | h | ⟨h, -⟩
    · cases h
    · exact absurd h (by decide)
    · exact hn.no_slash h

theorem isCanonical_shown (hp : Path.IsCanonical p) : Path.IsCanonical (shown p) := by
  obtain ⟨l, hl, rfl⟩ := hp
  refine ⟨l.map shown, fun n hn ↦ ?_, shown_path l⟩
  obtain ⟨n, hmem, rfl⟩ := List.mem_map.1 hn
  exact isName_shown (hl n hmem)

theorem isName_of_mem {c : Char} (hc : c ∈ n.toList) (hdot : c ≠ '.') (hslash : '/' ∉ n.toList) :
    Path.IsName n where
  ne_empty h := by simp [h] at hc
  ne_dot h := hdot (by simpa [h] using hc)
  ne_dots h := hdot (by simpa [h] using hc)
  no_slash := hslash

theorem isCanonical_deleted (hd : Path.IsCanonical d) :
    Path.IsCanonical (d ++ MountPoint.deletedMark) := by
  have hparen : '(' ∈ MountPoint.deletedMark.toList := by decide
  have hslash : '/' ∉ MountPoint.deletedMark.toList := by decide
  obtain ⟨l, hl, rfl⟩ := hd
  rcases List.eq_nil_or_concat l with rfl | ⟨above, last, rfl⟩
  · exact ⟨[MountPoint.deletedMark],
      List.forall_mem_singleton.2 (isName_of_mem hparen (by decide) hslash), by decide⟩
  · rw [List.concat_eq_append] at hl ⊢
    refine ⟨above ++ [last ++ MountPoint.deletedMark], fun n hn ↦ ?_, ?_⟩
    · rcases List.mem_append.1 hn with hn | hn
      · exact hl n (List.mem_append_left _ hn)
      · have hlast := hl last (by simp)
        rw [List.mem_singleton.1 hn]
        refine isName_of_mem (c := '(') ?_ (by decide) ?_
        · rw [String.toList_append]
          exact List.mem_append_right _ hparen
        · rw [String.toList_append, List.mem_append, not_or]
          exact ⟨hlast.no_slash, hslash⟩
    · obtain ⟨front, hfront⟩ := Text.intercalate_concat ['/'] (above.map String.toList)
      refine String.toList_injective ?_
      simp only [String.toList_append, Location.toList_path, List.map_append, List.map_singleton, hfront,
        List.cons_append, List.append_assoc]

/-- Behind the digits of a code a removed directory's mark cannot have begun yet. -/
theorem mark_behind_digits {digits ds w : List Char} (hdigits : ∀ d ∈ digits, Numeral.isDigit d = true)
    (h : digits ++ w = ds ++ MountPoint.deletedMark.toList) :
    ∃ ds', w = ds' ++ MountPoint.deletedMark.toList := by
  rcases List.append_eq_append_iff.1 h with ⟨m, -, hw⟩ | ⟨m, hm, hw⟩
  · exact ⟨m, hw⟩
  · cases m with
    | nil => exact ⟨[], hw.symm⟩
    | cons c m =>
      have hc : '\\' = c := (List.cons.inj (hw : _ :: _ = c :: (m ++ w))).1
      have hdigit := hdigits c (hm ▸ List.mem_append_right _ List.mem_cons_self)
      exact absurd (hc ▸ hdigit) (by decide)

theorem eq_space_of_code {c : Char} (h : writtenChar c = ['\\', '0', '4', '0']) : c = ' ' := by
  by_cases hc : c ∈ coded
  · simp only [coded, List.mem_cons, List.not_mem_nil, or_false] at hc
    rcases hc with rfl | rfl | rfl | rfl
    · rfl
    · exact absurd h (by decide)
    · exact absurd h (by decide)
    · exact absurd h (by decide)
  · rw [writtenChar_of_not_coded hc] at h
    cases h

theorem written_deleted {cs ds : List Char}
    (h : written cs = ds ++ MountPoint.deletedMark.toList) : " (deleted)".toList <:+ cs := by
  induction cs generalizing ds with
  | nil => cases (List.append_eq_nil_iff.1 h.symm).2
  | cons c cs ih =>
    rw [written_cons] at h
    by_cases hc : c ∈ coded
    · obtain ⟨x, y, z, hcode, hdigits⟩ := writtenChar_of_coded hc
      rw [hcode] at h
      cases ds with
      | nil =>
        -- the mark begins with this code, which can only be that of its space
        have hmark : ['\\', x, y, z] ++ written cs = ['\\', '0', '4', '0'] ++ "(deleted)".toList := h
        obtain ⟨hspace, hrest⟩ := List.append_inj hmark rfl
        rw [eq_space_of_code (hcode.trans hspace), eq_of_written hrest (by decide)]
        exact List.suffix_rfl
      | cons d ds =>
        obtain ⟨ds', hds'⟩ := mark_behind_digits hdigits (List.cons.inj h).2
        exact (ih hds').trans (List.suffix_cons c cs)
    · rw [writtenChar_of_not_coded hc] at h
      cases ds with
      | nil => exact absurd ((List.cons.inj h).1 ▸ by decide) hc
      | cons d ds =>
        exact (ih (List.cons.inj h).2).trans (List.suffix_cons c cs)

theorem isAt_entry {k : KernelMount} (hk : Path.IsCanonical k.path)
    (hkept : ¬" (deleted)".toList <:+ k.path.toList) (hd : Path.IsCanonical d) :
    k.entry.isAt d = true ↔ shown k.path = d := by
  have hdeleted : ¬shown k.path = d ++ MountPoint.deletedMark := by
    intro h
    have hwritten := congrArg String.toList h
    rw [toList_shown, String.toList_append] at hwritten
    exact hkept (written_deleted hwritten)
  have hshown := isCanonical_shown hk
  rw [MountPoint.isAt, Bool.or_eq_true, entry, Path.same_iff hshown hd,
    Path.same_iff hshown (isCanonical_deleted hd), or_iff_left hdeleted]

theorem length_written (cs : List Char) :
    (written cs).length = cs.length + 3 * cs.countP (· ∈ coded) := by
  induction cs with
  | nil => rfl
  | cons c cs ih =>
    rw [written_cons, List.length_append, List.length_cons, ih]
    by_cases hc : c ∈ coded
    · obtain ⟨x, y, z, hcode, -⟩ := writtenChar_of_coded hc
      simp only [hcode, hc, List.countP_cons, List.length_cons, List.length_nil, decide_true, if_true]
      omega
    · simp only [writtenChar_of_not_coded hc, hc, List.countP_cons, List.length_cons, List.length_nil,
        decide_false, Bool.false_eq_true, if_false]
      omega

theorem forall_shown_iff {ks : List KernelMount} (hks : ∀ k ∈ ks, Path.IsCanonical k.path) :
    (∀ d, Path.IsCanonical d → ((∃ k ∈ ks, shown k.path = d) ↔ ∃ k ∈ ks, k.path = d)) ↔
      ∀ k ∈ ks, ∀ c ∈ k.path.toList, c ∉ coded := by
  constructor
  · intro hsame k hk c hc hcoded
    -- a longest path with a code would be shown as a path with a code that is longer still
    let odd := ks.toFinset.filter fun k ↦ ∃ c ∈ k.path.toList, c ∈ coded
    have hodd : odd.Nonempty := by
      refine ⟨k, ?_⟩
      simp only [odd, Finset.mem_filter, List.mem_toFinset]
      exact ⟨hk, c, hc, hcoded⟩
    obtain ⟨longest, hmem, hlongest⟩ := odd.exists_max_image (fun k ↦ k.path.toList.length) hodd
    simp only [odd, Finset.mem_filter, List.mem_toFinset] at hmem hlongest
    obtain ⟨hmem, c, hc, hcoded⟩ := hmem
    obtain ⟨longer, hlonger, hpath⟩ :=
      (hsame _ (isCanonical_shown (hks longest hmem))).1 ⟨longest, hmem, rfl⟩
    have hle := hlongest longer ⟨hlonger, '\\', ?_, by decide⟩
    · have hcount : 0 < longest.path.toList.countP (· ∈ coded) :=
        List.countP_pos_iff.2 ⟨c, hc, decide_eq_true hcoded⟩
      rw [hpath, toList_shown, length_written] at hle
      omega
    · rw [hpath, toList_shown]
      exact backslash_mem_written.2 ⟨c, hc, hcoded⟩
  · intro hplain d _
    have hself : ∀ k ∈ ks, shown k.path = k.path := fun k hk ↦ by
      rw [shown, written_of_not_coded (hplain k hk), String.ofList_toList]
    exact exists_congr fun k ↦ and_congr_right fun hk ↦ by rw [hself k hk]

end KernelMount

namespace HostMounter

open KernelMount

variable {ω : Type} {m : Machine ω} {ks : List KernelMount}

def Shows (m : Machine ω) (ks : List KernelMount) : Prop :=
  ∀ o, (m.readTable o).1 = .ok (table ks)

theorem list_outcome (hshows : Shows m ks) (h : Host ω) :
    ∃ o', (list m).outcome h =
      ((MountTable.read (table ks)).mapError .invalidTable, { h with outside := o' }) := by
  have hread (h : Host ω) :
      ((Host.onOutside (Action.ofOutcome m.readTable)).rephrase MountError.system).outcome h =
        (.ok (table ks), { h with outside := (m.readTable h.outside).2 }) := by
    simp only [Host.onOutside, Action.outcome_rephrase, Action.outcome_on, Action.outcome_ofOutcome,
      hshows h.outside]
    rfl
  refine ⟨(m.readTable (m.readTable h.outside).2).2, ?_⟩
  -- the first two readings agree, so there is no third one
  simp only [list, readSteadily, attempts, readSteadily.again, Action.outcome_bind, hread, if_true,
    Action.outcome_pure, Action.outcome_ofExcept]

/-- The place that a path leads to, or the path itself if it leads nowhere. -/
def place (target : Path) (t : FileTree) : Path := (t.canonical? target).getD target

theorem isMountPoint_eq (m : Machine ω) (h : Host ω) (target : Path) :
    (isMountPoint m target).outcome h =
      (((list m).outcome h).1.map (·.any (·.isAt (place target h.files))), ((list m).outcome h).2) := by
  simp only [isMountPoint, Action.outcome_bind, Action.outcome_get]
  rcases (list m).outcome h with ⟨e | points, h'⟩
  · rfl
  · rfl

theorem isMountPoint_outcome (hshows : Shows m ks) (h : Host ω) (target : Path) :
    ∃ o', (isMountPoint m target).outcome h =
      (((MountTable.read (table ks)).mapError .invalidTable).map
        (·.any (·.isAt (place target h.files))), { h with outside := o' }) := by
  obtain ⟨o', hlist⟩ := list_outcome hshows h
  exact ⟨o', by rw [isMountPoint_eq, hlist]⟩

/-- The table is read just if the texts of every mount make four words. If each makes one, a directory
counts as a mount point just if its own text is what is shown for a path, and that is right of all
directories just if no path holds a character that is shown as a code. -/
theorem isMountPoint_iff_shown (hshows : Shows m ks)
    (hpaths : ∀ k ∈ ks, Path.IsCanonical k.path ∧ ¬" (deleted)".toList <:+ k.path.toList) :
    ((∃ points, MountTable.read (table ks) = .ok points) ↔ ∀ k ∈ ks, k.pieces.length = 4) ∧
    ((∀ k ∈ ks, k.Legible) →
      (∀ (h : Host ω) (d : Path), Path.IsCanonical d → place d h.files = d →
        ∃ found h', (isMountPoint m d).outcome h = (.ok found, h') ∧
          (found = true ↔ ∃ k ∈ ks, shown k.path = d)) ∧
      ((∀ d, Path.IsCanonical d → ((∃ k ∈ ks, shown k.path = d) ↔ ∃ k ∈ ks, k.path = d)) ↔
        ∀ k ∈ ks, ∀ c ∈ k.path.toList, c ∉ coded)) := by
  refine ⟨read_table_isOk_iff ks, fun hlegible ↦ ⟨fun h d hd hhere ↦ ?_,
    forall_shown_iff fun k hk ↦ (hpaths k hk).1⟩⟩
  obtain ⟨o', houtcome⟩ := isMountPoint_outcome hshows h d
  rw [read_table hlegible, hhere] at houtcome
  refine ⟨_, _, houtcome, ?_⟩
  simp only [List.any_map, List.any_eq_true, Function.comp_apply]
  exact exists_congr fun k ↦ and_congr_right fun hk ↦ isAt_entry (hpaths k hk).1 (hpaths k hk).2 hd

def showing (ks : List KernelMount) : Machine Unit where
  find? _ _ := none
  run _ _ o := (.error .notFound, o)
  readTable o := (.ok (table ks), o)

theorem isCanonical_of_blank : Path.IsCanonical "/mnt/a b" :=
  ⟨["mnt", "a b"], by
    intro n hn
    simp only [List.mem_cons, List.not_mem_nil, or_false] at hn
    rcases hn with rfl | rfl
    · exact ⟨by decide, by decide, by decide, by decide⟩
    · exact ⟨by decide, by decide, by decide, by decide⟩, by decide⟩

theorem isMountPoint_iff_shown_of_blank :
    let k : KernelMount := ⟨"/dev/sda1", "/mnt/a b", "ext4", "rw", 0, 0⟩
    Shows (showing [k]) [k] ∧ k.Legible ∧ (∃ points, MountTable.read (table [k]) = .ok points) ∧
      ∃ found h', (isMountPoint (showing [k]) "/mnt/a b").outcome ⟨{}, ()⟩ = (.ok found, h') ∧
        (found = true ↔ ∃ k' ∈ [k], shown k'.path = "/mnt/a b") := by
  intro k
  have hshows : Shows (showing [k]) [k] := fun _ ↦ rfl
  have hlegible : k.Legible := by decide
  have hpaths : ∀ k' ∈ [k], Path.IsCanonical k'.path ∧ ¬" (deleted)".toList <:+ k'.path.toList :=
    List.forall_mem_singleton.2 ⟨isCanonical_of_blank, by decide⟩
  obtain ⟨hread, hfound⟩ := isMountPoint_iff_shown hshows hpaths
  have hpieces : ∀ k' ∈ [k], k'.pieces.length = 4 :=
    List.forall_mem_singleton.2 (by rw [pieces_of_legible k hlegible]; rfl)
  obtain ⟨hlookup, -⟩ := hfound (List.forall_mem_singleton.2 hlegible)
  exact ⟨hshows, hlegible, hread.2 hpieces, hlookup ⟨{}, ()⟩ "/mnt/a b" isCanonical_of_blank rfl⟩

/-- A mount whose path has a space is not found, and one whose path has a blank that is not written as
a code makes the whole table unreadable. -/
theorem isMountPoint_misses_blanks :
    let k : KernelMount := ⟨"/dev/sda1", "/mnt/a b", "ext4", "rw", 0, 0⟩
    let wide : KernelMount := ⟨"/dev/sda1", "/mnt/a\u00a0b", "ext4", "rw", 0, 0⟩
    Path.IsCanonical k.path ∧ ¬" (deleted)".toList <:+ k.path.toList ∧
      (∃ h', (isMountPoint (showing [k]) k.path).outcome ⟨{}, ()⟩ = (.ok false, h')) ∧
      ¬∃ points, MountTable.read (table [wide]) = .ok points := by
  intro k wide
  have hlegible : k.Legible := by decide
  have hkept : ¬" (deleted)".toList <:+ k.path.toList := by decide
  refine ⟨isCanonical_of_blank, hkept, ?_, ?_⟩
  · obtain ⟨o', houtcome⟩ :=
      isMountPoint_outcome (m := showing [k]) (fun _ ↦ rfl) ⟨{}, ()⟩ "/mnt/a b"
    refine ⟨⟨{}, o'⟩, ?_⟩
    have hmissed : k.entry.isAt k.path = false := by
      rw [Bool.eq_false_iff, Ne, isAt_entry isCanonical_of_blank hkept isCanonical_of_blank]
      decide
    have hhere : place "/mnt/a b" {} = "/mnt/a b" := rfl
    rw [read_table (List.forall_mem_singleton.2 hlegible), hhere] at houtcome
    rw [houtcome]
    change (Except.ok (k.entry.isAt k.path || false), _) = _
    rw [hmissed, Bool.or_false]
  · rw [read_table_isOk_iff]
    intro h
    exact absurd (h wide (List.mem_singleton.2 rfl)) (by decide)

end HostMounter

end RealmDriver
