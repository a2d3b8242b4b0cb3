import Std.Data.ExtTreeMap

namespace RealmDriver

abbrev Dictionary := Std.ExtTreeMap String String

namespace Dictionary

def ofList (entries : List (String × String)) : Dictionary :=
  entries.foldl (fun d e ↦ d.insert e.1 e.2) ∅

/-- The text under a key, if there is one that is not empty. -/
def filled? (d : Dictionary) (key : String) : Option String :=
  d[key]?.filter (· ≠ "")

/-- An order in which a dictionary tells its entries. Equal dictionaries may have different ones. -/
structure Listing (d : Dictionary) where
  entries : List (String × String)
  perm : entries.Perm d.toList

def Listing.sorted (d : Dictionary) : Listing d := ⟨d.toList, .refl _⟩

end Dictionary

end RealmDriver
