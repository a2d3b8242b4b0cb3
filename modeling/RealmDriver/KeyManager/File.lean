import RealmDriver.Files.Tree
import RealmDriver.Text.Quoted

namespace RealmDriver

inductive KeyManagerError where
  | directory (fault : SystemFault)
  | file (fault : SystemFault) (path : Path)
  | permissions (fault : SystemFault)
  | missingData
  | write (fault : SystemFault)
  deriving DecidableEq, Repr

def KeyManagerError.message : KeyManagerError → String
  | .directory fault => "Failed to create KMIP config directory: " ++ fault.message
  | .file fault path =>
    s!"Failed to create KMIP config file: {fault.message} at path " ++ Text.quoted path
  | .permissions fault => "Failed to set permissions on KMIP config file: " ++ fault.message
  | .missingData => "KMIP config data is required for encrypted volumes"
  | .write fault => "Failed to write KMIP config data to file: " ++ fault.message

/-- A file that is there until it is released. -/
structure KeyManagerFile where
  path : Path
  deriving DecidableEq, Repr

namespace KeyManagerFile

def option (f : KeyManagerFile) : String := "kmip-config-file=" ++ f.path

def release (f : KeyManagerFile) (t : FileTree) : FileTree := t.discard f.path

def fill (f : KeyManagerFile) (data : Option String) : Action FileTree KeyManagerError Unit := do
  (Action.atomically (·.setMode f.path 0o600)).rephrase .permissions
  match data with
  | none | some "" => throw .missingData
  | some data => (FileTree.writeAll f.path data).rephrase .write

/-- Makes a new file with the data in a directory, which is made, too, if it is missing. A file that
cannot be filled does not stay. -/
def create (dir : Path) (data : Option String) :
    Action FileTree KeyManagerError KeyManagerFile := do
  (FileTree.createAll 0o700 dir).rephrase .directory
  let path ← (Action.yielding (·.createFresh dir "kmip-config-" ".conf")).rephrase
    fun (fault, path) ↦ .file fault path
  let f : KeyManagerFile := ⟨path⟩
  (f.fill data).onFailure f.release
  pure f

end KeyManagerFile

end RealmDriver
