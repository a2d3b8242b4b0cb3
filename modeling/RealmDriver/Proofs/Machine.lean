import RealmDriver.Machine.Basic
import RealmDriver.Proofs.Action
import RealmDriver.Proofs.Text.Character

namespace RealmDriver

def Text.NulFree (s : String) : Prop := ∀ c ∈ s.toList, c.toNat ≠ 0

instance (s : String) : Decidable (Text.NulFree s) :=
  inferInstanceAs (Decidable (∀ c ∈ s.toList, c.toNat ≠ 0))

namespace Machine

variable {ω : Type} (m : Machine ω)

/-- A program is not started at all, or runs with arguments that it can be handed. -/
theorem start_outcome (h : Host ω) (i : Invocation) :
    (∃ a ∈ i.password.toList ++ i.arguments, ¬Text.NulFree a) ∧
        (m.start i).outcome h = (.error .nulInArgument, h) ∨
      (∀ a ∈ i.arguments, Text.NulFree a) ∧
        (m.start i).outcome h = ((m.run i h.files h.outside).1,
          { h with outside := (m.run i h.files h.outside).2 }) := by
  rw [start]
  split
  · rename_i hnul
    obtain ⟨a, ha, hany⟩ := List.any_eq_true.1 hnul
    obtain ⟨c, hc, hzero⟩ := List.any_eq_true.1 hany
    exact .inl ⟨⟨a, ha, fun hfree ↦ hfree c hc (of_decide_eq_true hzero)⟩, rfl⟩
  · rename_i hnul
    refine .inr ⟨fun a ha c hc hzero ↦ hnul ?_, rfl⟩
    refine List.any_eq_true.2 ⟨a, List.mem_append_right _ ha, ?_⟩
    exact List.any_eq_true.2 ⟨c, hc, decide_eq_true hzero⟩

def Succeeded (r : Except SystemFault Finished) : Prop := ∃ f, r = .ok f ∧ f.ending.isSuccess = true

abbrev Started := Invocation × Except SystemFault Finished

/-- The same machine, which also writes down all starts. -/
def recording : Machine (List Started × ω) where
  find? s name := m.find? s.2 name
  run i files s := ((m.run i files s.2).1, s.1 ++ [(i, (m.run i files s.2).1)], (m.run i files s.2).2)
  readTable s := ((m.readTable s.2).1, s.1, (m.readTable s.2).2)

end Machine

end RealmDriver
