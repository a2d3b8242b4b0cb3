import Mathlib.Order.Defs.Unbundled
import RealmDriver.Proofs.Action

namespace RealmDriver

def Keeping {σ : Type} (P : σ → Prop) (s s' : σ) : Prop := P s → P s'

instance {σ : Type} (P : σ → Prop) : Std.Refl (Keeping P) := ⟨fun _ h ↦ h⟩

instance {σ : Type} (P : σ → Prop) : IsTrans σ (Keeping P) := ⟨fun _ _ _ h h' hs ↦ h' (h hs)⟩

namespace Action

variable {σ τ ε ε' α β : Type} {R : σ → σ → Prop} {a : Action σ ε α}

/-- Whichever way the action ends, the states before and after it are so related. -/
def Within (R : σ → σ → Prop) (a : Action σ ε α) : Prop := ∀ s, R s (a.outcome s).2

namespace Within

theorem attempt (ha : Within R a) : Within R (a.attempt : Action σ ε' (Except ε α)) := by
  intro s
  rw [outcome_attempt]
  exact ha s

theorem rephrase (f : ε → ε') (ha : Within R a) : Within R (a.rephrase f) := by
  intro s
  rw [outcome_rephrase]
  exact ha s

theorem on {Q : τ → τ → Prop} {get : τ → σ} {set : σ → τ → τ}
    (h : ∀ t s, R (get t) s → Q t (set s t)) (ha : Within R a) : Within Q (a.on get set) := by
  intro t
  rw [outcome_on]
  exact h t _ (ha (get t))

section

variable [Std.Refl R]

theorem pure (v : α) : Within R (Pure.pure v : Action σ ε α) := by
  intro s
  rw [outcome_pure]
  exact refl s

theorem throw (e : ε) : Within R (MonadExcept.throw e : Action σ ε α) := by
  intro s
  rw [outcome_throw]
  exact refl s

theorem get : Within R (MonadState.get : Action σ ε σ) := by
  intro s
  rw [outcome_get]
  exact refl s

theorem ofExcept (r : Except ε α) : Within R (Action.ofExcept r) := by
  intro s
  rw [outcome_ofExcept]
  exact refl s

theorem atomically {f : σ → Except ε σ} (hf : ∀ s s', f s = .ok s' → R s s') :
    Within R (Action.atomically f) := by
  intro s
  rw [Action.atomically, outcome_ofOutcome]
  cases hs : f s with
  | error e => exact refl s
  | ok s' => exact hf s s' hs

theorem checked {r : Except ε α} {f : α → Action σ ε β} (hf : ∀ v, r = .ok v → Within R (f v)) :
    Within R (Action.ofExcept r >>= f) := by
  intro s
  rw [outcome_bind, outcome_ofExcept]
  cases r with
  | error e => exact refl s
  | ok v => exact hf v rfl s

end

section

variable [IsTrans σ R]

theorem bind {f : α → Action σ ε β} (ha : Within R a) (hf : ∀ v, Within R (f v)) :
    Within R (a >>= f) := by
  intro s
  have hfirst := ha s
  rw [outcome_bind]
  rcases houtcome : a.outcome s with ⟨e | v, s'⟩
  · rw [houtcome] at hfirst
    exact hfirst
  · rw [houtcome] at hfirst
    exact IsTrans.trans _ _ _ hfirst (hf v s')

theorem forM [Std.Refl R] {f : β → Action σ ε PUnit} {xs : List β} (hf : ∀ x ∈ xs, Within R (f x)) :
    Within R (xs.forM f) := by
  induction xs with
  | nil => exact pure _
  | cons x xs ih =>
    rw [List.forall_mem_cons] at hf
    exact bind hf.1 fun _ ↦ ih hf.2

end

end Within

end Action

end RealmDriver
