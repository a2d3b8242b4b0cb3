import Mathlib.Logic.Function.Basic
import Mathlib.Logic.Relation

namespace RealmDriver

/-- Processes, each in a phase of its own, and what they share. -/
structure Crowd (ι π σ : Type) where
  phase : ι → π
  shared : σ

namespace Crowd

variable {ι π σ : Type} [DecidableEq ι] (turn : ι → π → σ → π × σ) (others : σ → σ → Prop)

def advance (c : Crowd ι π σ) (i : ι) : Crowd ι π σ :=
  let next := turn i (c.phase i) c.shared
  ⟨Function.update c.phase i next.1, next.2⟩

inductive Step : Crowd ι π σ → Crowd ι π σ → Prop
  | own (c : Crowd ι π σ) (i : ι) : Step c (c.advance turn i)
  | other (c : Crowd ι π σ) {s : σ} : others c.shared s → Step c ⟨c.phase, s⟩

abbrev Run : Crowd ι π σ → Crowd ι π σ → Prop := Relation.ReflTransGen (Step turn others)

variable {turn others}

theorem forall_advance {P : ι → π → Prop} {c : Crowd ι π σ} {i : ι}
    (hself : P i (turn i (c.phase i) c.shared).1) (hother : ∀ j, j ≠ i → P j (c.phase j)) (j : ι) :
    P j ((c.advance turn i).phase j) := by
  by_cases hj : j = i
  · subst hj
    simpa only [advance, Function.update_self] using hself
  · simpa only [advance, Function.update_of_ne hj] using hother j hj

theorem Run.invariant {P : Crowd ι π σ → Prop} (hown : ∀ c i, P c → P (c.advance turn i))
    (hother : ∀ c s, P c → others c.shared s → P ⟨c.phase, s⟩) {c c' : Crowd ι π σ}
    (hrun : Run turn others c c') (h : P c) : P c' := by
  induction hrun with
  | refl => exact h
  | tail _ hstep ih =>
    cases hstep with
    | own i => exact hown _ i ih
    | other hs => exact hother _ _ ih hs

end Crowd

end RealmDriver
