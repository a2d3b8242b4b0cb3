namespace RealmDriver

inductive PatchValue where
  | null
  | text (s : String)
  | object (name : String) (value : PatchValue)
  deriving Repr

namespace PatchValue

def ofLabel (label : String) (value : Option String) : PatchValue :=
  object "metadata" (object "labels" (object label (value.elim null text)))

end PatchValue

structure PatchError where
  node : String
  cause : String
  deriving DecidableEq, Repr

def PatchError.message (e : PatchError) : String :=
  s!"Failed to patch node {e.node}: {e.cause}"

end RealmDriver
