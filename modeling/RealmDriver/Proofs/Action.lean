import Mathlib.Data.List.Forall2
import RealmDriver.Action

namespace RealmDriver

namespace Except

variable {ε ε' α β : Type}

theorem bind_ok_iff {x : Except ε α} {f : α → Except ε β} {b : β} :
    x >>= f = .ok b ↔ ∃ a, x = .ok a ∧ f a = .ok b := by
  cases x with
  | error e =>
    constructor
    · intro h
      cases h
    · rintro ⟨a, h, -⟩
      cases h
  | ok a =>
    constructor
    · intro h
      exact ⟨a, rfl, h⟩
    · rintro ⟨a', h, hf⟩
      cases h
      exact hf

theorem isOk_iff {x : Except ε α} : x.isOk = true ↔ ∃ a, x = .ok a := by
  cases x <;> simp [Except.isOk, Except.toBool]

theorem mapError_ok_iff {f : ε → ε'} {x : Except ε α} {a : α} :
    x.mapError f = .ok a ↔ x = .ok a := by
  cases x with
  | error e =>
    constructor
    · intro h
      cases h
    · intro h
      cases h
  | ok b =>
    constructor
    · intro h
      cases h
      rfl
    · intro h
      cases h
      rfl

theorem mapError_error_iff {f : ε → ε'} {x : Except ε α} {e : ε'} :
    x.mapError f = .error e ↔ ∃ e', x = .error e' ∧ e = f e' := by
  cases x with
  | error e' =>
    constructor
    · intro h
      cases h
      exact ⟨e', rfl, rfl⟩
    · rintro ⟨_, ⟨⟩, rfl⟩
      rfl
  | ok a =>
    constructor
    · intro h
      cases h
    · rintro ⟨_, h, -⟩
      cases h

theorem guard_ok_iff {p : Prop} [Decidable p] {e : ε} {f : PUnit → Except ε α}
    {x : Except ε α} {a : α} : (if p then throw e >>= f else x) = .ok a ↔ ¬p ∧ x = .ok a := by
  by_cases hp : p
  · rw [if_pos hp]
    constructor
    · intro h
      cases h
    · intro h
      exact absurd hp h.1
  · rw [if_neg hp]
    exact (and_iff_right hp).symm

theorem ite_throw_ok_iff {p : Prop} [Decidable p] {e : ε} :
    (if p then throw e else pure () : Except ε Unit) = .ok () ↔ ¬p := by
  by_cases hp : p
  · rw [if_pos hp]
    exact iff_of_false (fun h ↦ nomatch h) (not_not_intro hp)
  · rw [if_neg hp]
    exact iff_of_true rfl hp

theorem mapM_of_forall {f : α → Except ε β} {g : α → β} {xs : List α}
    (h : ∀ x ∈ xs, f x = .ok (g x)) : xs.mapM f = .ok (xs.map g) := by
  induction xs with
  | nil => rfl
  | cons x xs ih =>
    rw [List.forall_mem_cons] at h
    rw [List.mapM_cons, h.1, ih h.2]
    rfl

theorem mapM_congr_of_map {γ : Type} {f : α → Except ε β} {key : α → γ} {xs ys : List α}
    (hf : ∀ a b, key a = key b → f a = f b) (h : xs.map key = ys.map key) :
    xs.mapM f = ys.mapM f := by
  induction xs generalizing ys with
  | nil => rw [List.map_eq_nil_iff.1 h.symm]
  | cons x xs ih =>
    obtain ⟨y, ys, rfl, hy, hys⟩ := List.map_eq_cons_iff.1 h.symm
    rw [List.mapM_cons, List.mapM_cons, hf x y hy.symm, ih hys.symm]
theorem mapM_isOk_iff {f : α → Except ε β} {xs : List α} :
    (∃ ys, xs.mapM f = .ok ys) ↔ ∀ x ∈ xs, ∃ y, f x = .ok y := by
  induction xs with
  | nil => exact ⟨fun _ x hx ↦ (nomatch hx), fun _ ↦ ⟨[], rfl⟩⟩
  | cons x xs ih =>
    rw [List.forall_mem_cons, ← ih, List.mapM_cons]
    constructor
    · rintro ⟨ys, h⟩
      obtain ⟨y, hy, h⟩ := bind_ok_iff.1 h
      obtain ⟨rest, hrest, -⟩ := bind_ok_iff.1 h
      exact ⟨⟨y, hy⟩, rest, hrest⟩
    · rintro ⟨⟨y, hy⟩, rest, hrest⟩
      rw [hy, hrest]
      exact ⟨y :: rest, rfl⟩

theorem mapM_ok_iff_forall₂ {f : α → Except ε β} {xs : List α} {ys : List β} :
    xs.mapM f = .ok ys ↔ List.Forall₂ (fun x y ↦ f x = .ok y) xs ys := by
  induction xs generalizing ys with
  | nil => cases ys <;> simp [pure, Except.pure]
  | cons x xs ih =>
    rw [List.mapM_cons, bind_ok_iff, List.forall₂_cons_left_iff]
    simp only [bind_ok_iff, ih]
    constructor
    · rintro ⟨y, hy, ys, hys, ⟨⟩⟩
      exact ⟨y, ys, hy, hys, rfl⟩
    · rintro ⟨y, ys, hy, hys, rfl⟩
      exact ⟨y, hy, ys, hys, rfl⟩

theorem forM_ok_iff {f : α → Except ε Unit} {xs : List α} :
    xs.forM f = .ok () ↔ ∀ x ∈ xs, f x = .ok () := by
  induction xs with
  | nil => exact ⟨fun _ x hx ↦ (nomatch hx), fun _ ↦ rfl⟩
  | cons x xs ih =>
    rw [List.forall_mem_cons, ← ih]
    refine bind_ok_iff.trans ?_
    exact ⟨fun ⟨_, h⟩ ↦ h, fun h ↦ ⟨(), h⟩⟩

theorem forM_congr {f g : α → Except ε Unit} {xs : List α} (h : ∀ x ∈ xs, f x = g x) :
    xs.forM f = xs.forM g := by
  induction xs with
  | nil => rfl
  | cons x xs ih =>
    rw [List.forall_mem_cons] at h
    change f x >>= (fun _ ↦ xs.forM f) = g x >>= fun _ ↦ xs.forM g
    rw [h.1, ih h.2]

theorem of_forM_error {f : α → Except ε Unit} {xs : List α} {e : ε} (h : xs.forM f = .error e) :
    ∃ before x after, xs = before ++ x :: after ∧ (∀ y ∈ before, f y = .ok ()) ∧ f x = .error e := by
  induction xs with
  | nil => cases h
  | cons x xs ih =>
    change f x >>= (fun _ ↦ xs.forM f) = _ at h
    cases hx : f x with
    | error e' =>
      rw [hx] at h
      cases h
      exact ⟨[], x, xs, rfl, fun y hy ↦ (nomatch hy), hx⟩
    | ok =>
      rw [hx] at h
      obtain ⟨before, y, after, rfl, hbefore, hy⟩ := ih h
      exact ⟨x :: before, y, after, rfl, List.forall_mem_cons.2 ⟨hx, hbefore⟩, hy⟩

end Except

namespace Action

variable {σ τ ε ε' α β : Type}

@[simp] theorem outcome_pure (a : α) (s : σ) :
    (pure a : Action σ ε α).outcome s = (.ok a, s) := rfl

@[simp] theorem outcome_throw (e : ε) (s : σ) :
    (throw e : Action σ ε α).outcome s = (.error e, s) := rfl

@[simp] theorem outcome_get (s : σ) : (get : Action σ ε σ).outcome s = (.ok s, s) := rfl

@[simp] theorem outcome_set (s s' : σ) : (set s' : Action σ ε Unit).outcome s = (.ok (), s') := rfl

@[simp] theorem outcome_modify (f : σ → σ) (s : σ) :
    (modify f : Action σ ε Unit).outcome s = (.ok (), f s) := rfl

@[simp] theorem outcome_ofOutcome (f : σ → Except ε α × σ) (s : σ) :
    (ofOutcome f).outcome s = f s := rfl

@[simp] theorem outcome_ofExcept (r : Except ε α) (s : σ) : (ofExcept r).outcome s = (r, s) := rfl

@[simp] theorem outcome_attempt (a : Action σ ε α) (s : σ) :
    (a.attempt : Action σ ε' (Except ε α)).outcome s = (.ok (a.outcome s).1, (a.outcome s).2) := rfl

@[simp] theorem outcome_rephrase (f : ε → ε') (a : Action σ ε α) (s : σ) :
    (a.rephrase f).outcome s = ((a.outcome s).1.mapError f, (a.outcome s).2) := rfl

@[simp] theorem outcome_on (get : τ → σ) (set : σ → τ → τ) (a : Action σ ε α) (t : τ) :
    (a.on get set).outcome t = ((a.outcome (get t)).1, set (a.outcome (get t)).2 t) := rfl

@[simp] theorem outcome_yielding (f : σ → Except ε (α × σ)) (s : σ) :
    (yielding f).outcome s = match f s with
      | .ok (a, s') => (.ok a, s')
      | .error e => (.error e, s) := rfl

@[simp] theorem outcome_onFailure (a : Action σ ε α) (f : σ → σ) (s : σ) :
    (a.onFailure f).outcome s = match a.outcome s with
      | (.ok v, s') => (.ok v, s')
      | (.error e, s') => (.error e, f s') := rfl

@[simp] theorem outcome_andAlways (a : Action σ ε α) (f : σ → σ) (s : σ) :
    (a.andAlways f).outcome s = ((a.outcome s).1, f (a.outcome s).2) := rfl

theorem outcome_bind (a : Action σ ε α) (f : α → Action σ ε β) (s : σ) :
    (a >>= f).outcome s = match a.outcome s with
      | (.ok v, s') => (f v).outcome s'
      | (.error e, s') => (.error e, s') := by
  change ExceptT.run (ExceptT.bind a f) s = _
  simp only [ExceptT.bind, ExceptT.run, ExceptT.mk, outcome, bind, StateT.bind, StateT.run]
  cases a s with
  | mk r s' => cases r <;> rfl

theorem of_outcome_bind_ok {a : Action σ ε α} {f : α → Action σ ε β} {s t : σ} {w : β}
    (h : (a >>= f).outcome s = (.ok w, t)) :
    ∃ v s', a.outcome s = (.ok v, s') ∧ (f v).outcome s' = (.ok w, t) := by
  rw [outcome_bind] at h
  rcases ha : a.outcome s with ⟨e | v, s'⟩
  · rw [ha] at h
    cases h
  · rw [ha] at h
    exact ⟨v, s', rfl, h⟩

end Action

end RealmDriver
