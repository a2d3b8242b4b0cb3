namespace RealmDriver

/-- An ability as a bit of a set and as a number in a message. -/
structure Ability where
  bit : Nat
  number : Nat
  deriving DecidableEq, Repr

namespace Ability

def createDelete : Ability := ⟨0, 1⟩
def expand : Ability := ⟨8, 9⟩
def singleNodeMultiWriter : Ability := ⟨12, 13⟩

/-- The abilities of a controller in the order of a message: creating and deleting, publishing,
listing, capacity, read-only publishing, expanding, looking up, and the finer access modes of a
single node. -/
def ofController : List Ability :=
  [createDelete, ⟨1, 2⟩, ⟨2, 3⟩, ⟨3, 4⟩, ⟨7, 8⟩, expand, ⟨11, 12⟩, singleNodeMultiWriter]

def nodeSingleNodeMultiWriter : Ability := ⟨4, 5⟩

def ofNode : List Ability := [⟨0, 1⟩, ⟨1, 2⟩, ⟨2, 3⟩, nodeSingleNodeMultiWriter]

def set (abilities : List Ability) : Nat := abilities.foldl (fun bits a ↦ bits ||| 1 <<< a.bit) 0

def numbers (known : List Ability) (bits : Nat) : List Nat :=
  (known.filter fun a ↦ bits.testBit a.bit).map Ability.number

end Ability

end RealmDriver
