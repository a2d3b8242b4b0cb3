import Mathlib.Order.Defs.Unbundled
import RealmDriver.Proofs.Action

namespace RealmDriver

section

variable {ε ε' δ δ' α α' β β' : Type}

/-- Both computations succeed, or both fail, and what they end with is so related. -/
inductive Matching (E : ε → ε' → Prop) (V : α → α' → Prop) : Except ε α → Except ε' α' → Prop
  | ok {a : α} {a' : α'} (h : V a a') : Matching E V (.ok a) (.ok a')
  | error {e : ε} {e' : ε'} (h : E e e') : Matching E V (.error e) (.error e')

namespace Matching

theorem bind {E : ε → ε' → Prop} {V : α → α' → Prop} {W : β → β' → Prop} {x : Except ε α}
    {x' : Except ε' α'} {f : α → Except ε β} {f' : α' → Except ε' β'} (hx : Matching E V x x')
    (hf : ∀ a a', V a a' → Matching E W (f a) (f' a')) : Matching E W (x >>= f) (x' >>= f') := by
  cases hx with
  | ok h => exact hf _ _ h
  | error h => exact .error h

theorem mapError {E : ε → ε' → Prop} {D : δ → δ' → Prop} {V : α → α' → Prop} {x : Except ε α}
    {x' : Except ε' α'} {f : ε → δ} {f' : ε' → δ'} (hf : ∀ e e', E e e' → D (f e) (f' e'))
    (hx : Matching E V x x') : Matching D V (x.mapError f) (x'.mapError f') := by
  cases hx with
  | ok h => exact .ok h
  | error h => exact .error (hf _ _ h)

theorem eq {x y : Except ε α} (h : Matching Eq Eq x y) : x = y := by
  cases h with
  | ok h => rw [h]
  | error h => rw [h]

theorem of_eq {E : ε → ε → Prop} {V : α → α → Prop} [Std.Refl V] {x y : Except ε α} (h : x = y)
    (hE : ∀ e, x = .error e → E e e) : Matching E V x y := by
  subst h
  cases x with
  | error e => exact .error (hE e rfl)
  | ok a => exact .ok (refl a)

end Matching

end

namespace Action

section

variable {σ τ σ' τ' ε ε' δ δ' α α' β β' : Type}

structure Coupled (R : σ → σ' → Prop) (E : ε → ε' → Prop) (V : α → α' → Prop) (x : Except ε α × σ)
    (x' : Except ε' α' × σ') : Prop where
  result : Matching E V x.1 x'.1
  state : R x.2 x'.2

def Paired (R : σ → σ' → Prop) (E : ε → ε' → Prop) (V : α → α' → Prop) (a : Action σ ε α)
    (a' : Action σ' ε' α') : Prop :=
  ∀ s s', R s s' → Coupled R E V (a.outcome s) (a'.outcome s')

variable {R : σ → σ' → Prop} {E : ε → ε' → Prop} {V : α → α' → Prop} {W : β → β' → Prop}
  {a : Action σ ε α} {a' : Action σ' ε' α'}

theorem Coupled.andAlways {Q : σ → σ' → Prop} {s : σ} {s' : σ'} {f : σ → σ} {f' : σ' → σ'}
    (hf : ∀ t t', R t t' → Q (f t) (f' t')) (h : Coupled R E V (a.outcome s) (a'.outcome s')) :
    Coupled Q E V ((a.andAlways f).outcome s) ((a'.andAlways f').outcome s') := by
  rw [outcome_andAlways, outcome_andAlways]
  exact ⟨h.result, hf _ _ h.state⟩

namespace Paired

theorem ofExcept {x : Except ε α} {x' : Except ε' α'} (h : Matching E V x x') :
    Paired R E V (Action.ofExcept x) (Action.ofExcept x') := by
  intro s s' hs
  rw [outcome_ofExcept, outcome_ofExcept]
  exact ⟨h, hs⟩

theorem same {R : σ → σ' → Prop} (x : Except ε α) :
    Paired R Eq Eq (Action.ofExcept x) (Action.ofExcept x) :=
  ofExcept (.of_eq rfl fun _ _ ↦ rfl)

theorem pure {v : α} {v' : α'} (h : V v v') :
    Paired R E V (Pure.pure v : Action σ ε α) (Pure.pure v' : Action σ' ε' α') :=
  ofExcept (.ok h)

theorem throw {e : ε} {e' : ε'} (h : E e e') :
    Paired R E V (MonadExcept.throw e : Action σ ε α) (MonadExcept.throw e' : Action σ' ε' α') :=
  ofExcept (.error h)

theorem attempt {D : δ → δ' → Prop} (ha : Paired R E V a a') :
    Paired R D (Matching E V) (a.attempt : Action σ δ _) (a'.attempt : Action σ' δ' _) := by
  intro s s' hs
  rw [outcome_attempt, outcome_attempt]
  exact ⟨.ok (ha s s' hs).result, (ha s s' hs).state⟩

theorem rephrase {D : δ → δ' → Prop} {f : ε → δ} {f' : ε' → δ'} (hf : ∀ e e', E e e' → D (f e) (f' e'))
    (ha : Paired R E V a a') : Paired R D V (a.rephrase f) (a'.rephrase f') := by
  intro s s' hs
  rw [outcome_rephrase, outcome_rephrase]
  exact ⟨(ha s s' hs).result.mapError hf, (ha s s' hs).state⟩

theorem on {Q : τ → τ' → Prop} {get : τ → σ} {get' : τ' → σ'} {set : σ → τ → τ} {set' : σ' → τ' → τ'}
    (hget : ∀ t t', Q t t' → R (get t) (get' t'))
    (hset : ∀ t t' s s', Q t t' → R s s' → Q (set s t) (set' s' t')) (ha : Paired R E V a a') :
    Paired Q E V (a.on get set) (a'.on get' set') := by
  intro t t' ht
  have hcoupled := ha _ _ (hget t t' ht)
  rw [outcome_on, outcome_on]
  exact ⟨hcoupled.result, hset t t' _ _ ht hcoupled.state⟩

theorem bind {f : α → Action σ ε β} {f' : α' → Action σ' ε' β'} (ha : Paired R E V a a')
    (hf : ∀ v v', V v v' → Paired R E W (f v) (f' v')) : Paired R E W (a >>= f) (a' >>= f') := by
  intro s s' hs
  obtain ⟨hresult, hstate⟩ := ha s s' hs
  rw [outcome_bind, outcome_bind]
  rcases houtcome : a.outcome s with ⟨x, t⟩
  rcases houtcome' : a'.outcome s' with ⟨x', t'⟩
  rw [houtcome, houtcome'] at hresult hstate
  cases hresult with
  | ok h => exact hf _ _ h t t' hstate
  | error h => exact ⟨.error h, hstate⟩

theorem forM {f : β → Action σ ε PUnit} {f' : β → Action σ' ε' PUnit}
    (hf : ∀ x, Paired R E Eq (f x) (f' x)) (xs : List β) : Paired R E Eq (xs.forM f) (xs.forM f') := by
  induction xs with
  | nil => exact pure rfl
  | cons x xs ih => exact bind (hf x) fun _ _ _ ↦ ih

end Paired

end

end Action

end RealmDriver
