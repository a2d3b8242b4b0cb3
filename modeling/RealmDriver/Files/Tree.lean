import RealmDriver.Action
import RealmDriver.Files.Fault
import RealmDriver.Files.Path
import Std.Data.ExtTreeMap

namespace RealmDriver

/-- What a name in the tree stands for. Modes are permission bits. -/
inductive Entry where
  | directory (mode : Nat)
  /-- A directory in which the kernel shows its own state. No name can be made in it, and it cannot
  be removed. A name of any length may be asked for there. -/
  | kernel
  | file (mode : Nat) (content : String)
  | link (target : Path)
  | socket
  deriving DecidableEq, Repr

/-- Names from the root down. -/
abbrev Location := List String

def Location.path (l : Location) : Path := "/" ++ "/".intercalate l

/-- The disk under a tree, which may refuse what is done to the file at a place. -/
structure Disk where
  /-- Why the mode of the file is not changed. -/
  fixed? : Location → Option SystemFault := fun _ ↦ none
  /-- Why the file takes no more of a text, and how many characters it takes before. -/
  full? : Location → Option (SystemFault × Nat) := fun _ ↦ none

/-- The letters that make a name a new one. -/
@[ext]
structure Letters where
  text : String
  length : text.toList.length = 6
  plain : ∀ c ∈ text.toList, c.isAlphanum = true
  deriving DecidableEq

def Letters.ofNumber (n : Nat) : Letters where
  text := String.ofList ([100000, 10000, 1000, 100, 10, 1].map fun unit ↦ (n / unit % 10).digitChar)
  length := by simp
  plain := by
    have hdigit (d : Nat) (hd : d < 10) : d.digitChar.isAlphanum = true := by
      have hall : ∀ d < 10, d.digitChar.isAlphanum = true := by decide
      exact hall d hd
    simp [hdigit, Nat.mod_lt]

/-- Makes up names for new files. -/
structure NameSource where
  /-- The letters for one name after the other. -/
  letters : Nat → Letters := Letters.ofNumber
  /-- How many names are tried before a file is given up. -/
  tries : Nat := 65536

structure FileTree where
  entries : Std.ExtTreeMap Location Entry := ∅
  /-- The directory at which relative paths start. -/
  workingDirectory : Location := []
  disk : Disk := {}
  names : NameSource := {}
  /-- Counts the names that were made up so far. -/
  serial : Nat := 0

namespace FileTree

instance : Inhabited FileTree := ⟨{}⟩

def longestName : Nat := 255

def longestPath : Nat := 4095

def mostLinks : Nat := 40

def entry? (t : FileTree) (l : Location) : Option Entry :=
  if l = [] then some (.directory 0o755) else t.entries[l]?

def hasDirectory (t : FileTree) (l : Location) : Bool :=
  match t.entry? l with
  | some (.directory _) | some .kernel => true
  | _ => false

def set (t : FileTree) (l : Location) (e : Entry) : FileTree :=
  { t with entries := t.entries.insert l e }

def unset (t : FileTree) (l : Location) : FileTree := { t with entries := t.entries.erase l }

def isEmptyAt (t : FileTree) (l : Location) : Bool :=
  t.entries.keys.all fun k ↦ k.length ≤ l.length || k.take l.length ≠ l

def isOverlong (t : FileTree) (l : Location) (name : String) : Bool :=
  longestName < name.utf8ByteSize && t.entry? l ≠ some .kernel

/-- How a walk ends: at a place, in front of a link, or not at all. -/
inductive Walk where
  | arrived (l : Location)
  | detour (directory : Location) (target : Path) (rest : List String)
  | refused (fault : SystemFault)

def walk (t : FileTree) (l : Location) : List String → Walk
  | [] => .arrived l
  | part :: rest =>
    if !t.hasDirectory l then .refused .notDirectory
    else if Path.isIdle part then walk t l rest
    else if part = ".." then walk t l.dropLast rest
    else if t.isOverlong l part then .refused .nameTooLong
    else match t.entry? (l ++ [part]) with
      | none => .refused .notFound
      | some (.link target) => .detour l target rest
      | some _ => walk t (l ++ [part]) rest

/-- Walks along the parts of a path and follows up to `links` links. -/
def follow (t : FileTree) (links : Nat) (l : Location) (parts : List String) :
    Except SystemFault Location :=
  match t.walk l parts, links with
  | .arrived l, _ => .ok l
  | .refused fault, _ => .error fault
  | .detour .., 0 => .error .tooManyLinks
  | .detour l target rest, links + 1 =>
    follow t links (if Path.isAbsolute target then [] else l) (Path.parts target ++ rest)

def accept (p : Path) : Except SystemFault Unit :=
  if p.toList.any (·.toNat = 0) then .error .nulInPath
  else if p = "" then .error .notFound
  else if longestPath < p.utf8ByteSize then .error .nameTooLong
  else .ok ()

def start (t : FileTree) (p : Path) : Location :=
  if Path.isAbsolute p then [] else t.workingDirectory

/-- The place that a path leads to, all links followed. -/
def locate (t : FileTree) (p : Path) : Except SystemFault Location := do
  accept p
  t.follow mostLinks (t.start p) (Path.parts p)

/-- The directory that a path ends in and the last name, itself not followed. -/
structure Seat where
  directory : Location
  name : String
  /-- Whether separators stand behind the name, as only a directory can have them. -/
  closed : Bool

namespace Seat

def isProper (s : Seat) : Bool := !Path.isIdle s.name && s.name ≠ ".."

def location (s : Seat) : Location := s.directory ++ [s.name]

end Seat

def seat (t : FileTree) (p : Path) : Except SystemFault Seat := do
  accept p
  let parts := Path.parts p
  let kept := (parts.reverse.dropWhile (· = "")).reverse
  let directory ← t.follow mostLinks (t.start p) kept.dropLast
  if !t.hasDirectory directory then throw .notDirectory
  let name := kept.getLast?.getD ""
  if t.isOverlong directory name then throw .nameTooLong
  pure { directory, name, closed := kept.length < parts.length }

/-- Puts something new at a path. Only a directory may be named with separators at the end. -/
def create (t : FileTree) (p : Path) (e : Entry) : Except SystemFault FileTree := do
  let seat ← t.seat p
  if !seat.isProper || (t.entry? seat.location).isSome then throw .exists
  if t.entry? seat.directory = some .kernel then throw .notFound
  match e with
  | .directory _ => pure (t.set seat.location e)
  | _ => if seat.closed then throw .notFound else pure (t.set seat.location e)

def isDirectory (t : FileTree) (p : Path) : Bool :=
  match t.locate p with
  | .ok l => t.hasDirectory l
  | .error _ => false

/-- Makes a directory and those above it that are missing. A directory that is there already is left
as it is. -/
def createAll (mode : Nat) (p : Path) : Action FileTree SystemFault Unit :=
  go (Path.parts p).length p
where
  /-- Takes it that the path is a directory if it could not be made. -/
  unlessThere (p : Path) (fault : SystemFault) : Action FileTree SystemFault Unit := do
    if (← get).isDirectory p then pure () else throw fault
  make (p : Path) : Action FileTree SystemFault Unit :=
    Action.atomically fun t ↦ t.create p (.directory mode)
  go (depth : Nat) (p : Path) : Action FileTree SystemFault Unit := do
    if p = "" then pure ()
    else match ← (make p).attempt with
      | .ok () => pure ()
      | .error .notFound =>
        match Path.parent? p, depth with
        | some above, depth + 1 =>
          go depth above
          match ← (make p).attempt with
          | .ok () => pure ()
          | .error fault => unlessThere p fault
        | _, _ => throw .noParent
      | .error fault => unlessThere p fault

def rooted (t : FileTree) (dir : Path) : Path :=
  if Path.isAbsolute dir then dir else Path.child t.workingDirectory.path dir

def freshPath (t : FileTree) (dir : Path) (before after : String) (n : Nat) : Path :=
  Path.child (t.rooted dir) (before ++ (t.names.letters n).text ++ after)

/-- Makes a new file in a directory, under a name that nothing there has, and tells its path. If
that fails, also the path that was refused is told. -/
def createFresh (t : FileTree) (dir : Path) (before after : String) :
    Except (SystemFault × Path) (Path × FileTree) :=
  go t.names.tries t.serial
where
  go : Nat → Nat → Except (SystemFault × Path) (Path × FileTree)
    | 0, _ => .error (.manyNames, t.rooted dir)
    | tries + 1, n =>
      let p := t.freshPath dir before after n
      match t.create p (.file 0o600 "") with
      | .ok t' => .ok (p, { t' with serial := n + 1 })
      | .error .exists => go tries (n + 1)
      | .error fault => .error (fault, p)

def write (t : FileTree) (p : Path) (content : String) : Except SystemFault FileTree := do
  let l ← t.locate p
  match t.entry? l with
  | some (.file mode _) => pure (t.set l (.file mode content))
  | some (.directory _) | some .kernel => throw .isDirectory
  | _ => throw .invalid

def shortage? (t : FileTree) (p : Path) : Option (SystemFault × Nat) :=
  match t.locate p with
  | .ok l => t.disk.full? l
  | .error _ => none

/-- Writes a file as far as its disk takes the text. -/
def writeAll (p : Path) (content : String) : Action FileTree SystemFault Unit := do
  match (← get).shortage? p with
  | none => Action.atomically (·.write p content)
  | some (fault, taken) =>
    Action.atomically (·.write p (String.ofList (content.toList.take taken)))
    throw fault

def setMode (t : FileTree) (p : Path) (mode : Nat) : Except SystemFault FileTree := do
  let l ← t.locate p
  if let some fault := t.disk.fixed? l then throw fault
  match t.entry? l with
  | some (.file _ content) => pure (t.set l (.file mode content))
  | some (.directory _) => pure (t.set l (.directory mode))
  | _ => throw .invalid

def remove (t : FileTree) (p : Path) : Except SystemFault FileTree := do
  let seat ← t.seat p
  if !seat.isProper then throw .isDirectory
  match t.entry? seat.location with
  | none => throw .notFound
  | some (.directory _) | some .kernel => throw .isDirectory
  | some _ => if seat.closed then throw .notDirectory else pure (t.unset seat.location)

def discard (t : FileTree) (p : Path) : FileTree := (t.remove p).toOption.getD t

def removeDirectory (t : FileTree) (p : Path) : Except SystemFault FileTree := do
  let seat ← t.seat p
  if !seat.isProper then throw .invalid
  match t.entry? seat.location with
  | none => throw .notFound
  | some (.directory _) =>
    if t.isEmptyAt seat.location then pure (t.unset seat.location) else throw .notEmpty
  | some .kernel => throw .busy
  | some _ => throw .notDirectory

def longestSocketPath : Nat := 107

/-- Puts a socket at a path. Whatever is there already takes the address. -/
def bind (t : FileTree) (p : Path) : Except SystemFault FileTree :=
  if longestSocketPath < p.utf8ByteSize then .error .socketPathTooLong
  else match t.create p .socket with
    | .error .exists => .error .addressInUse
    | outcome => outcome

def canonical? (t : FileTree) (p : Path) : Option Path :=
  match t.locate p with
  | .ok l => some l.path
  | .error _ => none

def socketMode : Nat := 0o755

def kernelMode : Nat := 0o555

def mode? (t : FileTree) (p : Path) : Option Nat :=
  match t.locate p with
  | .ok l => match t.entry? l with
    | some (.directory mode) | some (.file mode _) => some mode
    | some .socket => some socketMode
    | some .kernel => some kernelMode
    | _ => none
  | .error _ => none

def file? (t : FileTree) (p : Path) : Option (String × Nat) :=
  match t.locate p with
  | .ok l => match t.entry? l with
    | some (.file mode content) => some (content, mode)
    | _ => none
  | .error _ => none

def listing (t : FileTree) (l : Location) : List Path :=
  let below := t.entries.toList.filterMap fun (k, e) ↦
    if k.length ≤ l.length || k.take l.length ≠ l then none
    else
      let p := "/".intercalate (k.drop l.length)
      some (match e with
        | .directory _ | .kernel => p ++ "/"
        | _ => p)
  below.mergeSort fun a b ↦ a ≤ b

end FileTree

end RealmDriver
