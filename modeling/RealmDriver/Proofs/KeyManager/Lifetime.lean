import Mathlib.Order.Nat
import RealmDriver.Proofs.KeyManager.File

namespace RealmDriver

namespace FileTree

variable {t : FileTree} {l : Location} {mode : Nat} {content : String}

theorem ne_root_of_file (h : t.entry? l = some (.file mode content)) : l ≠ [] := by
  rintro rfl
  cases h

theorem losesFiles_unset (h : t.entry? l = some (.file mode content)) :
    LosesFiles (· = l) t (t.unset l) where
  kept k e hk hne := by rw [entry?_unset (ne_root_of_file h), if_neg (Ne.symm hne), hk]
  files k hk := ⟨mode, content, hk ▸ h⟩
  workingDirectory := rfl

theorem Seat.location_ne {s s' : Seat} (h : s.name ≠ s'.name) : s.location ≠ s'.location := by
  intro hsame
  rw [location, location, List.append_singleton_inj] at hsame
  exact h hsame.2

theorem discard_cases (t : FileTree) (p : Path) : t.discard p = t ∨ ∃ l, t.discard p = t.unset l := by
  rw [discard]
  cases hremove : t.remove p with
  | error fault => exact .inl rfl
  | ok t' =>
    obtain ⟨seat, -, hrest⟩ := Except.bind_ok_iff.1 hremove
    obtain ⟨-, hrest⟩ := Except.guard_ok_iff.1 hrest
    split at hrest
    · cases hrest
    · cases hrest
    · cases hrest
    · split_ifs at hrest
      cases hrest
      exact .inr ⟨seat.location, rfl⟩

theorem discard_serial (t : FileTree) (p : Path) : (t.discard p).serial = t.serial := by
  obtain h | ⟨l, h⟩ := t.discard_cases p <;> rw [h]
  rfl

/-- No letters were made up twice from a first tree to a later one. -/
def NamesDiffer (first now : FileTree) : Prop :=
  ∀ n m, first.serial ≤ n → n < m → m < now.serial → first.names.letters n ≠ first.names.letters m

theorem NamesDiffer.mono {first now now' : FileTree} (h : NamesDiffer first now')
    (hserial : now.serial ≤ now'.serial) : NamesDiffer first now :=
  fun n m hn hnm hm ↦ h n m hn hnm (Nat.lt_of_lt_of_le hm hserial)

end FileTree

namespace KeyManagerFile

open FileTree (Grows Extends LosesFiles MakesDirectories NamesDiffer Seat Vacant lastName)

/-- A file that is held, what it was made with, and whether somebody else has removed it. -/
structure Guard where
  file : KeyManagerFile
  secret : String
  unlinked : Bool := false

namespace Guard

def unlink (g : Guard) : Guard := { g with unlinked := true }

end Guard

/-- A host's files, and those of them that are held. -/
structure Holding where
  files : FileTree
  held : List Guard := []

inductive Event where
  | create (dir : Path) (data : Option String)
  /-- The file held under a number is released. -/
  | drop (i : Nat)
  /-- Somebody else removes the file held under a number. -/
  | unlink (i : Nat)

namespace Holding

def step (h : Holding) : Event → Holding
  | .create dir data =>
    match (create dir data).outcome h.files with
    | (.ok f, files) => { files, held := ⟨f, data.getD "", false⟩ :: h.held }
    | (.error _, files) => { h with files }
  | .drop i =>
    match h.held[i]? with
    | some g => { files := g.file.release h.files, held := h.held.eraseIdx i }
    | none => h
  | .unlink i =>
    match h.held[i]? with
    | some g => { files := h.files.discard g.file.path, held := h.held.set i g.unlink }
    | none => h

def run (h : Holding) (events : List Event) : Holding := events.foldl step h

theorem serial_le_step (h : Holding) (event : Event) : h.files.serial ≤ (h.step event).files.serial := by
  cases event with
  | create dir data =>
    have hmaking := create_making dir data h.files
    rw [step]
    generalize (create dir data).outcome h.files = outcome at hmaking ⊢
    cases hmaking with
    | unmade _ _ hmakes => exact hmakes.serial
    | missing _ _ hmakes => exact hmakes.serial
    | made _ _ _ hbefore => exact hbefore.serial
  | drop i =>
    rw [step]
    cases h.held[i]? with
    | none => exact le_rfl
    | some g => exact (h.files.discard_serial _).ge
  | unlink i =>
    rw [step]
    cases h.held[i]? with
    | none => exact le_rfl
    | some g => exact (h.files.discard_serial _).ge

theorem serial_le_run (h : Holding) (events : List Event) : h.files.serial ≤ (h.run events).files.serial := by
  induction events generalizing h with
  | nil => exact le_rfl
  | cons event events ih => exact (h.serial_le_step event).trans (ih (h.step event))

end Holding

structure Stands (first now : FileTree) (g : Guard) (s : Seat) : Prop where
  seat : now.seat g.file.path = .ok s
  proper : s.isProper = true
  opened : s.closed = false
  new : first.entry? s.location = none
  number : ∃ n, first.serial ≤ n ∧ n < now.serial ∧
    lastName g.file.path = nameOf (first.names.letters n)
  present : g.unlinked = false → now.entry? s.location = some (.file 0o600 g.secret)
  absent : g.unlinked = true → ∀ e, now.entry? s.location = some e → e.IsDirectory

namespace Stands

variable {first now now' : FileTree} {g g' : Guard} {s s' : Seat}

theorem locate (h : Stands first now g s) (hg : g.unlinked = false) :
    now.locate g.file.path = .ok s.location :=
  FileTree.locate_of_seat h.seat h.proper (h.present hg) (by simp) (.inl h.opened)

theorem file?_present (h : Stands first now g s) (hg : g.unlinked = false) :
    now.file? g.file.path = some (g.secret, 0o600) := by
  rw [FileTree.file?, h.locate hg]
  dsimp only
  rw [h.present hg]

theorem file?_absent (h : Stands first now g s) (hg : g.unlinked = true) :
    now.file? g.file.path = none := by
  rw [FileTree.file?]
  cases hentry : now.entry? s.location with
  | none =>
    cases hlocate : now.locate g.file.path with
    | error fault => rfl
    | ok l =>
      rw [FileTree.locate] at hlocate
      obtain ⟨_, haccept, hfollow⟩ := Except.bind_ok_iff.1 hlocate
      obtain ⟨s', hseat, htaken⟩ := FileTree.exists_seat haccept hfollow
      cases h.seat.symm.trans hseat
      rw [hentry] at htaken
      exact absurd (htaken h.proper) (by simp)
  | some e =>
    obtain ⟨mode, rfl⟩ := h.absent hg e hentry
    rw [FileTree.locate_of_seat h.seat h.proper hentry (by simp) (.inl h.opened)]
    dsimp only
    rw [hentry]

theorem location_ne (h : Stands first now g s) (h' : Stands first now g' s')
    (hname : lastName g.file.path ≠ lastName g'.file.path) : s.location ≠ s'.location := by
  apply Seat.location_ne
  rwa [FileTree.name_of_seat h.seat, FileTree.name_of_seat h'.seat]

/-- Nothing changes at a path while other files come and go, and while directories are made. -/
theorem transport {lost : Location → Prop} (h : Stands first now g s) (hloses : LosesFiles lost now now')
    (hserial : now.serial ≤ now'.serial) (hlost : ¬lost s.location)
    (hadded : ∀ e, now'.entry? s.location = some e → now.entry? s.location = some e ∨ e.IsDirectory) :
    Stands first now' g s where
  seat := hloses.seat h.seat
  proper := h.proper
  opened := h.opened
  new := h.new
  number := by
    obtain ⟨n, hfirst, hn, hname⟩ := h.number
    exact ⟨n, hfirst, Nat.lt_of_lt_of_le hn hserial, hname⟩
  present hg := hloses.kept _ _ (h.present hg) hlost
  absent hg e he := (hadded e he).elim (h.absent hg e) id

theorem makes (h : Stands first now g s) (hmakes : MakesDirectories 0o700 now now') :
    Stands first now' g s :=
  h.transport hmakes.losesFiles hmakes.serial not_false fun e he ↦ hmakes.adds.added _ e he

theorem set {l : Location} {e : Entry} (h : Stands first now g s) (hl : now.entry? l = none)
    (hne : s.location ≠ l) : Stands first (now.set l e) g s := by
  refine h.transport (FileTree.extends_set hl e).losesFiles (Nat.le_refl _) not_false fun e' he' ↦ .inl ?_
  rwa [FileTree.entry?_set (FileTree.ne_root hl), if_neg hne.symm] at he'

theorem unset {l : Location} {mode : Nat} {content : String} (h : Stands first now g s)
    (hl : now.entry? l = some (.file mode content)) (hne : s.location ≠ l) :
    Stands first (now.unset l) g s := by
  refine h.transport (FileTree.losesFiles_unset hl) (Nat.le_refl _) hne fun e' he' ↦ .inl ?_
  rwa [FileTree.entry?_unset (FileTree.ne_root_of_file hl), if_neg hne.symm] at he'

theorem discard_present (h : Stands first now g s) (hg : g.unlinked = false) :
    now.discard g.file.path = now.unset s.location :=
  FileTree.discard_of_seat h.seat h.proper h.opened (h.present hg)

/-- What has come to the place of a file that is gone is not removed in its stead. -/
theorem discard_absent (h : Stands first now g s) (hg : g.unlinked = true) :
    now.discard g.file.path = now := by
  rw [FileTree.discard, FileTree.remove, h.seat]
  change (Except.toOption (if _ then _ else _)).getD now = now
  rw [h.proper, if_neg (by decide)]
  cases hentry : now.entry? s.location with
  | none => rfl
  | some e =>
    obtain ⟨mode, rfl⟩ := h.absent hg e hentry
    rfl

end Stands

def Guard.Accounts (now : FileTree) (k : Location) (e : Entry) (g : Guard) : Prop :=
  g.unlinked = false ∧ now.locate g.file.path = .ok k ∧ e = .file 0o600 g.secret

/-- Since a first tree, directories have been made, and else there are the files that are held. -/
structure Keeps (first : FileTree) (h : Holding) : Prop where
  stands : ∀ g ∈ h.held, ∃ s, Stands first h.files g s
  apart : h.held.Pairwise fun g g' ↦ lastName g.file.path ≠ lastName g'.file.path
  grows : Grows (fun k e ↦ e = .directory 0o700 ∨ ∃ g ∈ h.held, g.Accounts h.files k e) first h.files
  serial : first.serial ≤ h.files.serial
  names : h.files.names = first.names

namespace Keeps

variable {first now now' : FileTree} {g : Guard} {held before after : List Guard}

theorem empty (first : FileTree) : Keeps first ⟨first, []⟩ where
  stands _ hg := absurd hg List.not_mem_nil
  apart := .nil
  grows := .of_entries rfl rfl
  serial := le_rfl
  names := rfl

theorem makes (h : Keeps first ⟨now, held⟩) (hmakes : MakesDirectories 0o700 now now') :
    Keeps first ⟨now', held⟩ where
  stands g hg := by
    obtain ⟨s, hs⟩ := h.stands g hg
    exact ⟨s, hs.makes hmakes⟩
  apart := h.apart
  grows := by
    have hbefore : Grows (fun k e ↦ e = .directory 0o700 ∨ ∃ g ∈ held, g.Accounts now' k e) first now := by
      refine h.grows.mono fun k e hnew ↦ hnew.imp_right ?_
      rintro ⟨g, hg, hunlinked, hlocate, he⟩
      exact ⟨g, hg, hunlinked, hmakes.toExtends.locate hlocate, he⟩
    exact hbefore.trans (hmakes.toGrows.mono fun k e ↦ .inl)
  serial := h.serial.trans hmakes.serial
  names := hmakes.names.trans h.names

theorem add (h : Keeps first ⟨now, held⟩) {p : Path} {s : Seat} {secret : String} {n : Nat}
    (hvacant : Vacant now p s) (hfirst : first.serial ≤ n) (hnumber : n < now.serial)
    (hname : lastName p = nameOf (first.names.letters n))
    (hfresh : ∀ g ∈ held, lastName g.file.path ≠ lastName p) :
    Keeps first ⟨now.set s.location (.file 0o600 secret), ⟨⟨p⟩, secret, false⟩ :: held⟩ where
  stands := by
    have hextends := FileTree.extends_set hvacant.free (.file 0o600 secret)
    refine List.forall_mem_cons.2 ⟨⟨s, ?_⟩, fun g hg ↦ ?_⟩
    · exact ⟨hextends.seat hvacant.seat, hvacant.proper, hvacant.opened,
        h.grows.toExtends.vacant hvacant.free, ⟨n, hfirst, hnumber, hname⟩,
        fun _ ↦ FileTree.entry?_set_self hvacant.free _, fun htrue ↦ absurd htrue Bool.false_ne_true⟩
    · obtain ⟨s', hs'⟩ := h.stands g hg
      refine ⟨s', hs'.set hvacant.free (Seat.location_ne ?_)⟩
      rw [FileTree.name_of_seat hs'.seat, FileTree.name_of_seat hvacant.seat]
      exact hfresh g hg
  apart := List.pairwise_cons.2 ⟨fun g hg ↦ (hfresh g hg).symm, h.apart⟩
  grows := by
    have hset := FileTree.grows_set hvacant.free (.file 0o600 secret)
    have hlocate := hvacant.locate_file 0o600 secret
    refine .trans (h.grows.mono fun k e hnew ↦ ?_) (hset.mono fun k e hnew ↦ ?_)
    · refine hnew.imp_right ?_
      rintro ⟨g, hg, hunlinked, hat, he⟩
      exact ⟨g, List.mem_cons_of_mem _ hg, hunlinked, hset.toExtends.locate hat, he⟩
    · obtain ⟨rfl, rfl⟩ := hnew
      exact .inr ⟨_, List.mem_cons_self, rfl, hlocate, rfl⟩
  serial := h.serial
  names := h.names

theorem unlink (h : Keeps first ⟨now, before ++ g :: after⟩) :
    Keeps first ⟨now.discard g.file.path, before ++ g.unlink :: after⟩ := by
  have hmem : g ∈ before ++ g :: after := by simp
  obtain ⟨s, hs⟩ := h.stands g hmem
  cases hunlinked : g.unlinked with
  | true =>
    have hsame : g.unlink = g := by
      rw [Guard.unlink, ← hunlinked]
    rwa [hs.discard_absent hunlinked, hsame]
  | false =>
    have hentry := hs.present hunlinked
    have hloses := FileTree.losesFiles_unset hentry
    have hroot := FileTree.ne_root_of_file hentry
    have hapart : ∀ g' ∈ before ++ after, lastName g'.file.path ≠ lastName g.file.path := by
      intro g' hg'
      exact ((List.pairwise_cons.1 ((List.pairwise_middle Ne.symm).1 h.apart)).1 g' hg').symm
    rw [hs.discard_present hunlinked]
    refine ⟨fun g' hg' ↦ ?_, ?_, ?_, h.serial, h.names⟩
    · rcases List.mem_cons.1 (List.perm_middle.mem_iff.1 hg') with rfl | hg'
      · refine ⟨s, hloses.seat hs.seat, hs.proper, hs.opened, hs.new, hs.number,
          fun hfalse ↦ absurd hfalse.symm Bool.false_ne_true, fun _ e he ↦ ?_⟩
        rw [FileTree.entry?_unset hroot, if_pos rfl] at he
        cases he
      · obtain ⟨s', hs'⟩ := h.stands g' (List.perm_middle.mem_iff.2 (List.mem_cons_of_mem _ hg'))
        exact ⟨s', hs'.unset hentry (hs'.location_ne hs (hapart g' hg'))⟩
    · simpa [List.pairwise_append, Guard.unlink] using h.apart
    · refine ⟨⟨fun k e hk ↦ ?_, h.grows.workingDirectory⟩, fun k e hk ↦ ?_⟩
      · refine hloses.kept k e (h.grows.kept k e hk) ?_
        rintro rfl
        exact absurd (hs.new.symm.trans hk) (by simp)
      · rw [FileTree.entry?_unset hroot] at hk
        split_ifs at hk with hne
        refine (h.grows.added k e hk).imp_right fun hnew ↦ hnew.imp_right ?_
        rintro ⟨g', hg', hpresent, hlocate, he⟩
        rcases List.mem_cons.1 (List.perm_middle.mem_iff.1 hg') with rfl | hg'
        · -- the file that is gone was at another place
          exact absurd (Except.ok.inj ((hs.locate hunlinked).symm.trans hlocate)) hne
        · exact ⟨g', List.perm_middle.mem_iff.2 (List.mem_cons_of_mem _ hg'), hpresent,
            hloses.locate hlocate (Ne.symm hne), he⟩

theorem forget (h : Keeps first ⟨now, before ++ g :: after⟩) (hg : g.unlinked = true) :
    Keeps first ⟨now, before ++ after⟩ := by
  have hsub : List.Sublist (before ++ after) (before ++ g :: after) :=
    List.Sublist.append_left (List.sublist_cons_self g after) before
  refine ⟨fun g' hg' ↦ h.stands g' (hsub.subset hg'), h.apart.sublist hsub, ?_, h.serial, h.names⟩
  refine h.grows.mono fun k e hnew ↦ hnew.imp_right ?_
  rintro ⟨g', hg', hpresent, hrest⟩
  rcases List.mem_cons.1 (List.perm_middle.mem_iff.1 hg') with rfl | hg'
  · exact absurd (hpresent.symm.trans hg) (by simp)
  · exact ⟨g', hg', hpresent, hrest⟩

theorem exists_split {i : Nat} (hi : held[i]? = some g) : ∃ before after, held = before ++ g :: after ∧
    held.eraseIdx i = before ++ after ∧ ∀ g', held.set i g' = before ++ g' :: after := by
  obtain ⟨hlt, rfl⟩ := List.getElem?_eq_some_iff.1 hi
  refine ⟨held.take i, held.drop (i + 1), ?_, List.eraseIdx_eq_take_drop_succ held i, fun g' ↦ ?_⟩
  · rw [← List.drop_eq_getElem_cons hlt, List.take_append_drop]
  · rw [List.set_eq_take_append_cons_drop, if_pos hlt]

theorem step {h : Holding} (hkeeps : Keeps first h) (event : Event)
    (hdiffer : NamesDiffer first (h.step event).files) : Keeps first (h.step event) := by
  obtain ⟨now, held⟩ := h
  cases event with
  | create dir data =>
    have hmaking := create_making dir data now
    rw [Holding.step] at hdiffer ⊢
    generalize (create dir data).outcome now = outcome at hmaking hdiffer ⊢
    cases hmaking with
    | unmade _ _ hmakes => exact hkeeps.makes hmakes
    | missing _ _ hmakes => exact hkeeps.makes hmakes
    | @made _ _ _ _ n _ hdata _ hbefore hvacant _ hnew hnumber hname =>
      subst hdata
      rw [hkeeps.names] at hname
      refine (hkeeps.makes hbefore).add hvacant (hkeeps.serial.trans hnew) hnumber hname fun g hg hsame ↦ ?_
      -- the letters of the others were made up before
      obtain ⟨s, hs⟩ := hkeeps.stands g hg
      obtain ⟨m, hfirst, hm, hgname⟩ := hs.number
      have hletters := nameOf_inj (hgname.symm.trans (hsame.trans hname))
      exact hdiffer m n hfirst (Nat.lt_of_lt_of_le hm hnew) hnumber hletters
  | drop i =>
    rw [Holding.step]
    cases hi : held[i]? with
    | none => exact hkeeps
    | some g =>
      obtain ⟨before, after, rfl, herase, -⟩ := exists_split hi
      dsimp only
      rw [herase]
      exact hkeeps.unlink.forget rfl
  | unlink i =>
    rw [Holding.step]
    cases hi : held[i]? with
    | none => exact hkeeps
    | some g =>
      obtain ⟨before, after, rfl, -, hset⟩ := exists_split hi
      dsimp only
      rw [hset]
      exact hkeeps.unlink

theorem run {h : Holding} (hkeeps : Keeps first h) (events : List Event)
    (hdiffer : NamesDiffer first (h.run events).files) : Keeps first (h.run events) := by
  induction events generalizing h with
  | nil => exact hkeeps
  | cons event events ih =>
    have hstep := hdiffer.mono ((h.step event).serial_le_run events)
    exact ih (hkeeps.step event hstep) hdiffer

end Keeps

/-- The files of a host are those of a first tree and those that are held and not removed. Each of these has a
place of its own where nothing was at first, and holds for its owner alone what it was made with. Else nothing
has changed since, but directories for their owner alone may have been made. -/
structure Accounted (first : FileTree) (h : Holding) : Prop where
  files : ∀ k mode content, h.files.entry? k = some (.file mode content) ↔
    first.entry? k = some (.file mode content) ∨
      ∃ g ∈ h.held, g.unlinked = false ∧ h.files.locate g.file.path = .ok k ∧ mode = 0o600 ∧ content = g.secret
  present : ∀ g ∈ h.held, g.unlinked = false → h.files.file? g.file.path = some (g.secret, 0o600) ∧
    ∃ k, h.files.locate g.file.path = .ok k ∧ first.entry? k = none
  absent : ∀ g ∈ h.held, g.unlinked = true → h.files.file? g.file.path = none
  apart : h.held.Pairwise fun g g' ↦ g.file.path ≠ g'.file.path ∧
    (g.unlinked = false → g'.unlinked = false → h.files.locate g.file.path ≠ h.files.locate g'.file.path)
  kept : Extends first h.files
  added : ∀ k e, h.files.entry? k = some e → (∀ mode content, e ≠ .file mode content) →
    first.entry? k = some e ∨ e = .directory 0o700

theorem Keeps.accounted {first : FileTree} {h : Holding} (hkeeps : Keeps first h) : Accounted first h where
  files k mode content := by
    constructor
    · intro hk
      refine (hkeeps.grows.added k _ hk).imp_right ?_
      rintro (hdirectory | ⟨g, hg, hunlinked, hlocate, hfile⟩)
      · cases hdirectory
      · cases hfile
        exact ⟨g, hg, hunlinked, hlocate, rfl, rfl⟩
    · rintro (hk | ⟨g, hg, hunlinked, hlocate, rfl, rfl⟩)
      · exact hkeeps.grows.kept k _ hk
      · obtain ⟨s, hs⟩ := hkeeps.stands g hg
        cases (hs.locate hunlinked).symm.trans hlocate
        exact hs.present hunlinked
  present g hg hunlinked := by
    obtain ⟨s, hs⟩ := hkeeps.stands g hg
    exact ⟨hs.file?_present hunlinked, s.location, hs.locate hunlinked, hs.new⟩
  absent g hg hunlinked := by
    obtain ⟨s, hs⟩ := hkeeps.stands g hg
    exact hs.file?_absent hunlinked
  apart := by
    refine hkeeps.apart.imp_of_mem fun {g g'} hg hg' hname ↦ ⟨fun hsame ↦ hname (by rw [hsame]), ?_⟩
    intro hunlinked hunlinked'
    obtain ⟨s, hs⟩ := hkeeps.stands g hg
    obtain ⟨s', hs'⟩ := hkeeps.stands g' hg'
    rw [hs.locate hunlinked, hs'.locate hunlinked', Ne, Except.ok.injEq]
    exact hs.location_ne hs' hname
  kept := hkeeps.grows.toExtends
  added k e hk hfile := by
    refine (hkeeps.grows.added k e hk).imp_right ?_
    rintro (hdirectory | ⟨g, -, -, -, he⟩)
    · exact hdirectory
    · exact absurd he (hfile _ _)

/-- A file that cannot be made leaves directories at most, whatever the fault, and a file is made just if
there is something to put into it and nothing is refused. -/
theorem create_outcome (dir : Path) (data : Option String) (t : FileTree) :
    let done := (create dir data).outcome t
    Extends t done.2 ∧ (∀ e, done.1 = .error e → Grows (fun _ e ↦ e = .directory 0o700) t done.2) ∧
    ((∃ f, done.1 = .ok f) ↔ (∃ secret, data = some secret ∧ secret ≠ "") ∧ Creatable dir data t) := by
  have hmaking := create_making dir data t
  dsimp only
  generalize (create dir data).outcome t = done at hmaking ⊢
  cases hmaking with
  | unmade hunable _ hmakes =>
    exact ⟨hmakes.toExtends, fun _ _ ↦ hmakes.toGrows,
      iff_of_false (by simp) fun h ↦ hunable h.2⟩
  | missing _ hdata hmakes =>
    refine ⟨hmakes.toExtends, fun _ _ ↦ hmakes.toGrows, iff_of_false (by simp) ?_⟩
    rintro ⟨⟨secret, hsecret, hne⟩, -⟩
    exact hne (hdata secret hsecret)
  | made hable hdata hsecret hbefore hvacant =>
    exact ⟨hbefore.toExtends.trans (FileTree.extends_set hvacant.free _), by simp,
      iff_of_true ⟨_, rfl⟩ ⟨⟨_, hdata, hsecret⟩, hable⟩⟩

/-- However files are made, released and removed by others, and whatever the disk refuses: as long as no
letters come twice in their names, they are accounted for at any time, and the next one that cannot be made
leaves directories at most. -/
theorem run_accounted (first : FileTree) (events : List Event)
    (hdiffer : NamesDiffer first (Holding.run ⟨first, []⟩ events).files) :
    let now := Holding.run ⟨first, []⟩ events
    Accounted first now ∧ ∀ dir data,
      let done := (create dir data).outcome now.files
      Extends now.files done.2 ∧
      (∀ e, done.1 = .error e → Grows (fun _ e ↦ e = .directory 0o700) now.files done.2) ∧
      ((∃ f, done.1 = .ok f) ↔
        (∃ secret, data = some secret ∧ secret ≠ "") ∧ Creatable dir data now.files) :=
  ⟨((Keeps.empty first).run events hdiffer).accounted, fun dir data ↦ create_outcome dir data _⟩

def narrow : FileTree where
  disk :=
    { full? := fun l ↦
        if l.getLast? = some "kmip-config-000001.conf" then
          some (.other "No space left on device (os error 28)", 1)
        else none }

def narrowEvents : List Event :=
  [.create "/run/kmip" (some "a"), .create "/run/kmip" (some "bb"), .unlink 0,
    .create "/run/kmip" (some ""), .create "/run/kmip" (some "c"), .drop 1]

theorem run_accounted_of_narrow :
    let now := Holding.run ⟨narrow, []⟩ narrowEvents
    NamesDiffer narrow now.files ∧ Accounted narrow now ∧ now.held.length = 1 ∧
      now.files.entries.toList =
        [(["run"], .directory 0o700), (["run", "kmip"], .directory 0o700),
          (["run", "kmip", "kmip-config-000003.conf"], .file 0o600 "c")] := by
  have hserial : (Holding.run ⟨narrow, []⟩ narrowEvents).files.serial = 4 := by decide +kernel
  have hfour : ∀ m < 4, ∀ n < m, Letters.ofNumber n ≠ Letters.ofNumber m := by decide
  have hdiffer : NamesDiffer narrow (Holding.run ⟨narrow, []⟩ narrowEvents).files :=
    fun n m _ hnm hm ↦ hfour m (hserial ▸ hm) n hnm
  obtain ⟨haccounted, -⟩ := run_accounted narrow narrowEvents hdiffer
  exact ⟨hdiffer, haccounted, by decide +kernel, by decide +kernel⟩

end KeyManagerFile

end RealmDriver
