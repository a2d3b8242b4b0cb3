namespace RealmDriver

/-- An action on a state of type `σ` with failures in `ε`. What it did to the state before it failed
stays done. -/
abbrev Action (σ ε α : Type) := ExceptT ε (StateM σ) α

namespace Action

def outcome (a : Action σ ε α) (s : σ) : Except ε α × σ := StateT.run (ExceptT.run a) s

def ofOutcome (f : σ → Except ε α × σ) : Action σ ε α := ExceptT.mk (StateT.mk f)

def ofExcept (r : Except ε α) : Action σ ε α := ofOutcome fun s ↦ (r, s)

/-- A change of the state that happens as a whole or not at all. -/
def atomically (f : σ → Except ε σ) : Action σ ε Unit :=
  ofOutcome fun s ↦ match f s with
    | .ok s' => (.ok (), s')
    | .error e => (.error e, s)

def on (get : τ → σ) (set : σ → τ → τ) (a : Action σ ε α) : Action τ ε α :=
  ofOutcome fun t ↦ let (r, s) := a.outcome (get t); (r, set s t)

def rephrase (f : ε → ε') (a : Action σ ε α) : Action σ ε' α :=
  ofOutcome fun s ↦ let (r, s') := a.outcome s; (r.mapError f, s')

def attempt (a : Action σ ε α) : Action σ ε' (Except ε α) :=
  ofOutcome fun s ↦ let (r, s') := a.outcome s; (.ok r, s')

/-- A computation that yields a value together with the new state, or leaves the state alone. -/
def yielding (f : σ → Except ε (α × σ)) : Action σ ε α :=
  ofOutcome fun s ↦ match f s with
    | .ok (a, s') => (.ok a, s')
    | .error e => (.error e, s)

def onFailure (a : Action σ ε α) (f : σ → σ) : Action σ ε α :=
  ofOutcome fun s ↦ match a.outcome s with
    | (.ok v, s') => (.ok v, s')
    | (.error e, s') => (.error e, f s')

def andAlways (a : Action σ ε α) (f : σ → σ) : Action σ ε α :=
  ofOutcome fun s ↦ let (r, s') := a.outcome s; (r, f s')

end Action

end RealmDriver
