import RealmDriver.Action

namespace RealmDriver

/-- Reads until two readings in a row agree, at most `attempts` times after the first one. -/
def readSteadily [DecidableEq α] (read : Action σ ε α) (attempts : Nat) :
    Action σ ε (Option α) := do
  again attempts (← read)
where
  again : Nat → α → Action σ ε (Option α)
    | 0, _ => pure none
    | attempts + 1, last => do
      let now ← read
      if now = last then pure (some now) else again attempts now

end RealmDriver
