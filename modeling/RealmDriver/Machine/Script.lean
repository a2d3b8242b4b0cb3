import RealmDriver.Machine.Basic

namespace RealmDriver

structure Start where
  invocation : Invocation
  key : Option (String × Nat)

/-- The programs of a machine, the ends that programs still have to meet, and the starts so far.
Broken programs can be found and cannot be started. -/
structure Script where
  programs : List (String × Path)
  broken : List Path := []
  endings : List Finished := []
  table : List UInt8
  starts : List Start := []

namespace Script

def keyPath? : List String → Option Path
  | "-i" :: p :: _ => some p
  | _ :: rest => keyPath? rest
  | [] => none

/-- Takes the next end from the script; behind its last one every program succeeds silently. -/
def next (s : Script) : Finished × Script :=
  match s.endings with
  | [] => (⟨[], .exited 0⟩, s)
  | ending :: endings => (ending, { s with endings })

def machine : Machine Script where
  find? s name := s.programs.lookup name
  run i files s :=
    if i.program ∈ s.broken then (.error .notFound, s)
    else
      let key := (keyPath? i.arguments).bind files.file?
      let (ending, s) := s.next
      (.ok ending, { s with starts := s.starts ++ [⟨i, key⟩] })
  readTable s := (.ok s.table, s)

end Script

end RealmDriver
