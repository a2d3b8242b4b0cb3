import RealmDriver.Text.Blank

namespace RealmDriver

abbrev Path := String

namespace Path

/-- The parts of a path between its separators. An absolute path has an empty part in front. -/
def parts (p : Path) : List String :=
  (Text.splitAt (· = '/') p.toList).map String.ofList

def isAbsolute (p : Path) : Bool := p.toList.head? = some '/'

def isIdle (part : String) : Bool := part = "" || part = "."

/-- The components of a path. The root is a component of its own. -/
def components (p : Path) : List String :=
  match p.parts with
  | [] => []
  | first :: rest =>
    let head := if p.isAbsolute then ["/"] else if first = "" then [] else [first]
    head ++ rest.filter (!isIdle ·)

def same (p q : Path) : Bool := p.components = q.components

def trimIdle (parts : List String) : List String := (parts.reverse.dropWhile isIdle).reverse

def ofParts (parts : List String) : Path := "/".intercalate parts

/-- The path of the directory that a path is in. The root and the empty path are in none. -/
def parent? (p : Path) : Option Path :=
  match p.parts with
  | [] => none
  | first :: rest =>
    match trimIdle rest with
    | [] => if first = "" then none else some ""
    | kept =>
      match trimIdle kept.dropLast with
      | [] => some (if p.isAbsolute then "/" else first)
      | kept => some (ofParts (first :: kept))

def child (dir : Path) (name : String) : Path :=
  if dir = "" ∨ dir.toList.getLast? = some '/' then dir ++ name else dir ++ "/" ++ name

end Path

end RealmDriver
