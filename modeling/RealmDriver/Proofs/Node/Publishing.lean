import Mathlib.Order.Nat
import RealmDriver.Machine.Script
import RealmDriver.Node.Publish
import RealmDriver.Proofs.KeyManager.File
import RealmDriver.Proofs.Mount.Watching
import RealmDriver.Proofs.Validation

namespace RealmDriver

/-- In a directory there is a file, where nothing was before, that holds a secret for its owner alone. -/
def KeyManagerFile.Holds (directory : Path) (secret : String) (before now : FileTree)
    (f : KeyManagerFile) : Prop :=
  ∃ d name, now.locate (before.rooted directory) = .ok d ∧ now.locate f.path = .ok (d ++ [name]) ∧
    now.entry? (d ++ [name]) = some (.file 0o600 secret) ∧ before.entry? (d ++ [name]) = none

theorem KeyManagerFile.holds_of_vacant {t base : FileTree} {dir p : Path} {s : FileTree.Seat}
    (hbefore : FileTree.AddsDirectories t base) (hvacant : FileTree.Vacant base p s)
    (hdir : base.locate (t.rooted dir) = .ok s.directory) (secret : String) :
    Holds dir secret t (base.set s.location (.file 0o600 secret)) ⟨p⟩ := by
  have hextends := FileTree.extends_set hvacant.free (.file 0o600 secret)
  refine ⟨s.directory, s.name, hextends.locate hdir, hvacant.locate_file _ _, ?_, ?_⟩
  · exact FileTree.entry?_set_self hvacant.free _
  · exact hbefore.vacant hvacant.free

namespace Node

open FileTree (AddsDirectories Vacant)

variable {ω : Type} {mounter : Mounter ω} (directory : Path) (r : PublishRequest)

def mountOptions : List String := r.capability.access.flags ++ if r.readonly then ["ro"] else []

variable {r} in
theorem of_check_ok {options : List String} (h : check r = .ok options) : options = mountOptions r := by
  simp only [check, Except.bind_ok_iff, Except.guard_ok_iff] at h
  obtain ⟨_, -, -, -, ⟨⟩⟩ := h
  rfl

theorem mount_watched (options : List String) (log : List Sighting) (h : Host ω) :
    (mount mounter.watched r options).outcome (h.watched log) =
      ((mount mounter r options).outcome h).map id
        (Host.watched (log ++ [(mountCall r options, h.files)])) := by
  rw [mount, Action.outcome_rephrase, Mounter.watched_mount]
  rfl

section

variable {directory r} {f : Failure} {h : Host ω} {files : FileTree}

theorem publish_refused (hcheck : check r = .error f) :
    (publish directory mounter r).outcome h = (.error f, h) := by
  rw [publish, hcheck]
  rfl

theorem publish_plain (hcheck : check r = .ok (mountOptions r))
    (hplain : isEncrypted r.context = false) :
    (publish directory mounter r).outcome h = (mount mounter r (mountOptions r)).outcome h := by
  rw [publish, hcheck, hplain]
  rfl

theorem publish_unmade {e : KeyManagerError} (hcheck : check r = .ok (mountOptions r))
    (hencrypted : isEncrypted r.context = true)
    (hcreate : (KeyManagerFile.create directory r.secrets[Secret.keyManager.key]?).outcome h.files =
      (.error e, files)) :
    (publish directory mounter r).outcome h = (.error (keyManagerFailure e), { h with files }) := by
  simp only [publish, hcheck, hencrypted, Action.outcome_bind, Action.outcome_ofExcept, if_true,
    Action.outcome_rephrase, Host.onFiles, Action.outcome_on, hcreate]
  rfl

theorem publish_made {file : KeyManagerFile} (hcheck : check r = .ok (mountOptions r))
    (hencrypted : isEncrypted r.context = true)
    (hcreate : (KeyManagerFile.create directory r.secrets[Secret.keyManager.key]?).outcome h.files =
      (.ok file, files)) :
    (publish directory mounter r).outcome h =
      ((mount mounter r (mountOptions r ++ [file.option])).outcome { h with files }).map id
        fun h' ↦ { h' with files := file.release h'.files } := by
  simp only [publish, hcheck, hencrypted, Action.outcome_bind, Action.outcome_ofExcept, if_true,
    Action.outcome_rephrase, Host.onFiles, Action.outcome_on, hcreate]
  rfl

end

section

variable {directory r} {h : Host ω} {files : FileTree}

theorem watched_refused {f : Failure} (hcheck : check r = .error f) :
    (publish directory mounter.watched r).outcome (h.watched []) =
      ((publish directory mounter r).outcome h).map id (Host.watched []) := by
  rw [publish_refused hcheck, publish_refused hcheck]
  rfl

theorem watched_plain (hcheck : check r = .ok (mountOptions r))
    (hplain : isEncrypted r.context = false) :
    (publish directory mounter.watched r).outcome (h.watched []) =
      ((publish directory mounter r).outcome h).map id
        (Host.watched [(mountCall r (mountOptions r), h.files)]) := by
  rw [publish_plain hcheck hplain, publish_plain hcheck hplain, mount_watched]
  rfl

theorem watched_unmade {e : KeyManagerError} (hcheck : check r = .ok (mountOptions r))
    (hencrypted : isEncrypted r.context = true)
    (hcreate : (KeyManagerFile.create directory r.secrets[Secret.keyManager.key]?).outcome h.files =
      (.error e, files)) :
    (publish directory mounter.watched r).outcome (h.watched []) =
      ((publish directory mounter r).outcome h).map id (Host.watched []) := by
  rw [publish_unmade hcheck hencrypted hcreate,
    publish_unmade (h := h.watched []) hcheck hencrypted hcreate]
  rfl

theorem watched_made {file : KeyManagerFile} (hcheck : check r = .ok (mountOptions r))
    (hencrypted : isEncrypted r.context = true)
    (hcreate : (KeyManagerFile.create directory r.secrets[Secret.keyManager.key]?).outcome h.files =
      (.ok file, files)) :
    (publish directory mounter.watched r).outcome (h.watched []) =
      ((publish directory mounter r).outcome h).map id
        (Host.watched [(mountCall r (mountOptions r ++ [file.option]), files)]) := by
  rw [publish_made hcheck hencrypted hcreate,
    publish_made (h := h.watched []) hcheck hencrypted hcreate]
  change ((mount mounter.watched r _).outcome (Host.watched [] { h with files })).map _ _ = _
  rw [mount_watched]
  rfl

end

section

variable {directory r} (hmounter : mounter.AddsDirectories) (h : Host ω)

include hmounter

end

/-- An encrypted volume, with the secret that its mount helper needs. -/
def encryptedRequest : PublishRequest where
  volumeId := "a"
  target := "/data"
  capability := ⟨.singleNodeWriter, .mount none ["noatime"]⟩
  readonly := true
  secrets := Validation.adminSecrets.insert Secret.keyManager.key "host = kms"
  context := Dictionary.ofList [(Attribute.encryption.key, "on")]

def failingMounts : Host MountMemory := ⟨{}, { mountFailure := some "busy" }⟩

end Node

end RealmDriver
