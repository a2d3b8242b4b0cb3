import RealmDriver.Mount.Host
import RealmDriver.Mount.Memory
import RealmDriver.Proofs.Files.Growth

namespace RealmDriver

variable {ω σ α ε : Type}

namespace Host

def AddsDirectories (h h' : Host ω) : Prop := FileTree.AddsDirectories h.files h'.files

instance : Std.Refl (AddsDirectories (ω := ω)) := ⟨fun _ ↦ refl (r := FileTree.AddsDirectories) _⟩

instance : IsTrans (Host ω) AddsDirectories := ⟨fun _ _ _ ↦ FileTree.Grows.trans⟩

end Host

theorem readSteadily_within {R : σ → σ → Prop} [Std.Refl R] [IsTrans σ R] [DecidableEq α]
    {read : Action σ ε α} (hread : read.Within R) (attempts : Nat) :
    (readSteadily read attempts).Within R := by
  have hagain : ∀ last, (readSteadily.again read attempts last).Within R := by
    induction attempts with
    | zero =>
      intro last
      exact .pure _
    | succ attempts ih =>
      intro last
      apply Action.Within.bind hread
      intro now
      split
      · exact .pure _
      · exact ih now
  exact .bind hread hagain

namespace Mounter

def AddsDirectories (m : Mounter ω) : Prop := ∀ call, (m.mount call).Within Host.AddsDirectories

end Mounter

namespace HostMounter

variable (hm : HostMounter) (m : Machine ω)

theorem list_within_of {R : Host ω → Host ω → Prop} [Std.Refl R] [IsTrans (Host ω) R]
    (hread : (Host.onOutside (Action.ofOutcome m.readTable)).Within R) : (list m).Within R := by
  apply Action.Within.bind
  · exact readSteadily_within (hread.rephrase _) attempts
  · intro bytes
    split
    · exact .throw _
    · exact .ofExcept _

end HostMounter

/-- A call of a mounter, and the files of the host when it was made. -/
abbrev Sighting := MountCall × FileTree

def Host.watched (log : List Sighting) (h : Host ω) : Host (List Sighting × ω) :=
  ⟨h.files, log, h.outside⟩

def Host.unwatched (h : Host (List Sighting × ω)) : Host ω := ⟨h.files, h.outside.2⟩

def Mounter.watched (m : Mounter ω) : Mounter (List Sighting × ω) where
  mount call := do
    modify fun h ↦ { h with outside := (h.outside.1 ++ [(call, h.files)], h.outside.2) }
    (m.mount call).on Host.unwatched fun h' h ↦ h'.watched h.outside.1
  unmount target := (m.unmount target).on Host.unwatched fun h' h ↦ h'.watched h.outside.1
  list := m.list.on Host.unwatched fun h' h ↦ h'.watched h.outside.1
  isMountPoint target := (m.isMountPoint target).on Host.unwatched fun h' h ↦ h'.watched h.outside.1

theorem Mounter.watched_mount (m : Mounter ω) (call : MountCall) (log : List Sighting) (h : Host ω) :
    (m.watched.mount call).outcome (h.watched log) =
      (((m.mount call).outcome h).1,
        ((m.mount call).outcome h).2.watched (log ++ [(call, h.files)])) := rfl

end RealmDriver
