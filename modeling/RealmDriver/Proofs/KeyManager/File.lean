import RealmDriver.KeyManager.File
import RealmDriver.Proofs.Files.Fresh

namespace RealmDriver.KeyManagerFile

open FileTree (AddsDirectories MakesDirectories Seat Vacant)

def nameOf (l : Letters) : String := "kmip-config-" ++ l.text ++ ".conf"

theorem nameOf_inj {l l' : Letters} (h : nameOf l = nameOf l') : l = l' :=
  Letters.ext (String.append_right_inj _ |>.1 (String.append_left_inj _ |>.1 h))

theorem not_mem_nameOf (l : Letters) : '/' ∉ (nameOf l).toList := by
  simp [nameOf, String.toList_append, FileTree.not_mem_letters]

theorem nameOf_ne_empty (l : Letters) : nameOf l ≠ "" := by
  simp [nameOf]

/-- What can come of making the file. -/
inductive Made (dir : Path) (data : Option String) (t : FileTree) :
    Except KeyManagerError KeyManagerFile × FileTree → Prop
  | failed {e : KeyManagerError} {t' : FileTree} (h : AddsDirectories t t') :
    Made dir data t (.error e, t')
  | made {secret : String} {p : Path} {s : Seat} {t' : FileTree} (hdata : data = some secret)
    (hsecret : secret ≠ "") (hbefore : AddsDirectories t t') (hvacant : Vacant t' p s)
    (hdir : t'.locate (t.rooted dir) = .ok s.directory) :
    Made dir data t (.ok ⟨p⟩, t'.set s.location (.file 0o600 secret))

/-- The disk lets the mode of the file at a place be changed, and data be put into it if there are any. -/
structure Accepts (disk : Disk) (l : Location) (data : Option String) : Prop where
  mode : disk.fixed? l = none
  content : ∀ secret, data = some secret → secret ≠ "" → disk.full? l = none

inductive Filled (data : Option String) (t : FileTree) (s : Seat) :
    Except KeyManagerError Unit × FileTree → Prop
  | filled {secret : String} (hdata : data = some secret) (hsecret : secret ≠ "")
    (haccepts : Accepts t.disk s.location data) :
    Filled data t s (.ok (), t.set s.location (.file 0o600 secret))
  | missing {content : String} (hdata : ∀ secret, data = some secret → secret = "")
    (haccepts : Accepts t.disk s.location data) :
    Filled data t s (.error .missingData, t.set s.location (.file 0o600 content))
  | refused {e : KeyManagerError} {content : String} (hrefuses : ¬Accepts t.disk s.location data)
    (he : e ≠ .missingData) : Filled data t s (.error e, t.set s.location (.file 0o600 content))

variable {t : FileTree} {p : Path} {s : Seat} {data : Option String} {secret : String}

theorem filled_or_missing (data : Option String) :
    (∃ secret, data = some secret ∧ secret ≠ "") ∨ ∀ secret, data = some secret → secret = "" := by
  by_cases hfilled : ∃ secret, data = some secret ∧ secret ≠ ""
  · exact .inl hfilled
  · right
    intro secret hdata
    exact Classical.byContradiction fun hne ↦ hfilled ⟨secret, hdata, hne⟩

theorem fill_filled (h : Vacant t p s) (data : Option String) :
    Filled data t s ((fill ⟨p⟩ data).outcome (t.set s.location (.file 0o600 ""))) := by
  simp only [fill, Action.atomically, Action.outcome_bind, Action.outcome_rephrase,
    Action.outcome_ofOutcome, h.setMode]
  cases hfixed : t.disk.fixed? s.location with
  | some fault => exact .refused (fun haccepts ↦ by simp [haccepts.mode] at hfixed) (by simp)
  | none =>
    -- what is missing is told before anything is written
    rcases filled_or_missing data with ⟨secret, rfl, hsecret⟩ | hdata
    · simp only [Except.mapError, Action.outcome_rephrase, h.writeAll]
      cases hfull : t.disk.full? s.location with
      | none => exact .filled rfl hsecret ⟨hfixed, fun _ _ _ ↦ hfull⟩
      | some shortage =>
        exact .refused (fun haccepts ↦ by simp [haccepts.content secret rfl hsecret] at hfull) (by simp)
    · have haccepts : Accepts t.disk s.location data :=
        ⟨hfixed, fun secret hsecret hne ↦ absurd (hdata secret hsecret) hne⟩
      rcases data with _ | secret
      · exact .missing hdata haccepts
      · cases hdata secret rfl
        exact .missing hdata haccepts

/-- Whether the file can be made for some data or for none, and the disk accepts it. -/
def Creatable (dir : Path) (data : Option String) (t : FileTree) : Prop :=
  ∃ t' path files l, (FileTree.createAll 0o700 dir).outcome t = (.ok (), t') ∧
    t'.createFresh dir "kmip-config-" ".conf" = .ok (path, files) ∧ files.locate path = .ok l ∧
    Accepts files.disk l data

inductive Making (dir : Path) (data : Option String) (t : FileTree) :
    Except KeyManagerError KeyManagerFile × FileTree → Prop
  | unmade {e : KeyManagerError} {t' : FileTree} (hunable : ¬Creatable dir data t)
    (he : e ≠ .missingData) (h : MakesDirectories 0o700 t t') : Making dir data t (.error e, t')
  | missing {t' : FileTree} (hable : Creatable dir data t)
    (hdata : ∀ secret, data = some secret → secret = "") (h : MakesDirectories 0o700 t t') :
    Making dir data t (.error .missingData, t')
  | made {secret : String} {p : Path} {s : Seat} {t' : FileTree} {n : Nat} (hable : Creatable dir data t)
    (hdata : data = some secret) (hsecret : secret ≠ "") (hbefore : MakesDirectories 0o700 t t')
    (hvacant : Vacant t' p s) (hdir : t'.locate (t.rooted dir) = .ok s.directory)
    (hnew : t.serial ≤ n) (hnumber : n < t'.serial)
    (hname : FileTree.lastName p = nameOf (t.names.letters n)) :
    Making dir data t (.ok ⟨p⟩, t'.set s.location (.file 0o600 secret))

theorem creatable_iff (data : Option String) {dir : Path} {t₁ files : FileTree} {l : Location}
    (hall : (FileTree.createAll 0o700 dir).outcome t = (.ok (), t₁))
    (hfresh : t₁.createFresh dir "kmip-config-" ".conf" = .ok (p, files)) (hlocate : files.locate p = .ok l) :
    Creatable dir data t ↔ Accepts files.disk l data := by
  constructor
  · rintro ⟨t', path, files', l', hall', hfresh', hlocate', haccepts⟩
    cases hall.symm.trans hall'
    cases hfresh.symm.trans hfresh'
    cases hlocate.symm.trans hlocate'
    exact haccepts
  · intro haccepts
    exact ⟨t₁, p, files, l, hall, hfresh, hlocate, haccepts⟩

/-- A file that could not be filled is taken away again. -/
theorem makes_release {t' : FileTree} (hmakes : MakesDirectories 0o700 t t') (hvacant : Vacant t' p s)
    (content : String) :
    MakesDirectories 0o700 t (release ⟨p⟩ (t'.set s.location (.file 0o600 content))) := by
  refine ⟨hvacant.discard_within hmakes.toGrows (.of_entries rfl rfl), ?_, ?_⟩ <;>
    rw [release, hvacant.discard ⟨fun _ _ hentry ↦ hentry, rfl⟩]
  · exact hmakes.serial
  · exact hmakes.names

theorem create_making (dir : Path) (data : Option String) (t : FileTree) :
    Making dir data t ((create dir data).outcome t) := by
  have hmakes := FileTree.createAll_makes 0o700 dir t
  simp only [create, Action.outcome_bind, Action.outcome_rephrase, Action.outcome_yielding,
    Action.outcome_onFailure]
  rcases hall : (FileTree.createAll 0o700 dir).outcome t with ⟨fault | ⟨⟩, t₁⟩
  · rw [hall] at hmakes
    refine .unmade ?_ (by simp) hmakes
    rintro ⟨t', path, files, l, hall', -⟩
    cases hall.symm.trans hall'
  · rw [hall] at hmakes
    simp only [Except.mapError]
    cases hfresh : t₁.createFresh dir "kmip-config-" ".conf" with
    | error fault =>
      refine .unmade ?_ (by simp) hmakes
      rintro ⟨t', path, files, l, hall', hfresh', -⟩
      cases hall.symm.trans hall'
      cases hfresh.symm.trans hfresh'
    | ok fresh =>
      obtain ⟨p, t₂⟩ := fresh
      obtain ⟨n, s, hnew, hp, hvacant, rfl⟩ := FileTree.exists_vacant_of_createFresh_ok hfresh
      have hable_iff := creatable_iff data hall hfresh (hvacant.locate_file 0o600 "")
      have hbefore : MakesDirectories 0o700 t { t₁ with serial := n + 1 } :=
        ⟨hmakes.toGrows.trans (.of_entries rfl rfl),
          Nat.le_succ_of_le (Nat.le_trans hmakes.serial hnew), hmakes.names⟩
      have hfilled := fill_filled hvacant data
      dsimp only
      generalize (fill ⟨p⟩ data).outcome _ = filling at hfilled ⊢
      cases hfilled with
      | missing hdata haccepts =>
        exact .missing (hable_iff.2 haccepts) hdata (makes_release hbefore hvacant _)
      | refused hrefuses he =>
        exact .unmade (mt hable_iff.1 hrefuses) he (makes_release hbefore hvacant _)
      | filled hdata hsecret haccepts =>
        refine .made (hable_iff.2 haccepts) hdata hsecret hbefore hvacant ?_
          (Nat.le_trans hmakes.serial hnew) (Nat.lt_succ_self n) ?_
        · have hrooted := hbefore.toExtends.rooted dir
          rw [hp, FileTree.freshPath] at hvacant
          rw [← hrooted]
          exact FileTree.Vacant.locate_rooted hvacant (by decide) (by decide) (by decide)
        · rw [hp, FileTree.freshPath, ← hmakes.names]
          exact FileTree.lastName_child _ (not_mem_nameOf _) (nameOf_ne_empty _)

end RealmDriver.KeyManagerFile
