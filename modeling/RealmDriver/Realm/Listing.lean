import RealmDriver.Realm.Error
import RealmDriver.Realm.Name
import RealmDriver.Realm.Record
import RealmDriver.Text.Word

namespace RealmDriver.Listing

/-- Replaces every occurrence of `pattern`, from the left; what is put in is not searched again. -/
def replaceAll (pattern replacement : List Char) (cs : List Char) : List Char :=
  go 0 cs
where
  go : Nat → List Char → List Char
    | _, [] => []
    | skip + 1, _ :: cs => go skip cs
    | 0, c :: cs =>
      if pattern.isPrefixOf (c :: cs) then replacement ++ go (pattern.length - 1) cs
      else c :: go 0 cs

/-- The entities of the document and the characters they stand for. The ampersand comes last: what
it leaves behind is text. -/
def entities : List (String × Char) :=
  [("&lt;", '<'), ("&gt;", '>'), ("&quot;", '"'), ("&apos;", Char.ofNat 0x27), ("&amp;", '&')]

/-- The text of an element: trimmed, with its entities replaced one kind after the other. -/
def unescape (cs : List Char) : List Char :=
  entities.foldl (fun cs e ↦ replaceAll e.1.toList [e.2] cs) (Text.trimEnd (Text.trimStart cs))

/-- All matches in a text from left to right. `match?` says whether one begins here, and how many
characters it takes; the search goes on behind it. -/
def findAll (match? : List Char → Option (α × Nat)) : Nat → List Char → List α
  | _, [] => []
  | skip + 1, _ :: cs => findAll match? skip cs
  | 0, c :: cs =>
    match match? (c :: cs) with
    | some (found, length) => found :: findAll match? (length - 1) cs
    | none => findAll match? 0 cs

def before? (mark : List Char) : List Char → Option (List Char)
  | [] => if mark.isEmpty then some [] else none
  | c :: cs => if mark.isPrefixOf (c :: cs) then some [] else (before? mark cs).map (c :: ·)

def behind? (mark cs : List Char) : Option (List Char) :=
  if mark.isPrefixOf cs then some (cs.drop mark.length) else none

/-- An opening tag that holds no other, the text up to the next tag, and that tag's name. -/
structure Element where
  tag : String
  value : List Char
  close : String
  deriving DecidableEq, Repr

def name? (cs : List Char) : Option (List Char) :=
  match cs.takeWhile Char.isAlphanum with
  | c :: r => if c.isAlpha then some (c :: r) else none
  | [] => none

def element? (cs : List Char) : Option (Element × Nat) := do
  let r ← behind? ['<'] cs
  let tag ← name? r
  let r := r.drop tag.length
  if !Text.endsWord r then failure
  let attributes ← before? ['>'] r
  let r := r.drop (attributes.length + 1)
  let value := r.takeWhile (· ≠ '<')
  let r ← behind? ['<', '/'] (r.drop value.length)
  let close ← name? r
  let r ← behind? ['>'] (r.drop close.length)
  pure (⟨String.ofList tag, value, String.ofList close⟩, cs.length - r.length)

/-- A `volume` element: the attributes of its tag and everything up to the next closing tag. -/
structure Section where
  attributes : List Char
  body : List Char
  deriving DecidableEq, Repr

def section? (cs : List Char) : Option (Section × Nat) := do
  let r ← behind? "<volume".toList cs
  if !Text.endsWord r then failure
  let attributes ← before? ['>'] r
  let r := r.drop (attributes.length + 1)
  let body ← before? "</volume>".toList r
  let r := r.drop (body.length + "</volume>".length)
  pure (⟨attributes, body⟩, cs.length - r.length)

/-- The value of the first `id` attribute, which begins no later word. -/
def id? (afterWord : Bool) : List Char → Option (List Char)
  | [] => none
  | c :: cs =>
    let here := if afterWord then none else behind? "id=\"".toList (c :: cs) >>= before? ['"']
    here <|> id? (Text.isWord c) cs

def quota (bound : Bound) (value : String) : Except RealmError Quota :=
  if value = "" then .ok Binary64.zero
  else match Quota.read? value with
    | some q => .ok q
    | none => .error ⟨.internal, s!"invalid {bound.tag} '{value}'"⟩

/-- Keeps a field that is set already: nested elements may use a tag again, and the first belongs to
the volume. -/
def firstFilled (old new : String) : String := if old = "" then new else old

/-- Takes one element into a record. A later quota replaces an earlier one. -/
def absorb (r : VolumeRecord) (e : Element) : Except RealmError VolumeRecord :=
  let value := String.ofList (unescape e.value)
  if e.tag ≠ e.close then .ok r
  else if e.tag = Bound.soft.tag then (quota .soft value).map fun q ↦ { r with soft := q }
  else if e.tag = Bound.hard.tag then (quota .hard value).map fun q ↦ { r with hard := q }
  else if e.tag = "name" then .ok { r with name := firstFilled r.name value }
  else if e.tag = "state" then .ok { r with state := firstFilled r.state value }
  else match Attribute.all.find? fun a ↦ a.tag = e.tag with
    | some a => .ok (r.setValue a (firstFilled (r.value a) value))
    | none => .ok r

def record (s : Section) : Except RealmError VolumeRecord := do
  let id := String.ofList ((id? false s.attributes).getD [])
  let r ← (findAll element? 0 s.body).foldlM absorb { name := "", id }
  let name := VolumeName.strip r.name
  if name = "" then throw ⟨.internal, "pasxml volume without a name"⟩
  pure { r with name }

/-- The records of a document in its order, or the first failure. -/
def read (document : String) : Except RealmError (List VolumeRecord) :=
  (findAll section? 0 document.toList).mapM record

end RealmDriver.Listing
