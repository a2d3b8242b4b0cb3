import RealmDriver.Controller.Basic
import RealmDriver.Proofs.Frame

namespace RealmDriver.Controller

variable {σ α β : Type}

def guarded (checked : Except Failure Unit) (call : Action σ RealmError α)
    (after : Except RealmError α → Except Failure β) : Action σ Failure β := do
  Action.ofExcept checked
  Action.ofExcept (after (← call.attempt))

theorem delete_eq (realm : Realm σ) (r : DeleteRequest) : delete realm r =
    guarded (checkCredentials r.secrets) (realm.delete r.volumeId r.secrets) afterDelete := rfl

theorem validate_eq (realm : Realm σ) (r : ValidateRequest) : validate realm r =
    guarded (checkValidate r) (realm.lookup r.volumeId r.secrets) (afterLookup r) := rfl

theorem expand_eq (realm : Realm σ) (r : ExpandRequest) : expand realm r =
    guarded (checkExpand r) (realm.expand r.volumeId r.capacity.required.toInt r.secrets)
      (afterExpand r) := rfl

variable {call : Action σ RealmError α} {after : Except RealmError α → Except Failure β} (s : σ)

theorem guarded_refused (f : Failure) :
    (guarded (.error f) call after).outcome s = (.error f, s) := rfl

theorem guarded_admitted :
    (guarded (.ok ()) call after).outcome s =
      (after (call.outcome s).1, (call.outcome s).2) := by
  simp only [guarded, Action.outcome_bind, Action.outcome_ofExcept, Action.outcome_attempt]

theorem guarded_within {R : σ → σ → Prop} [Std.Refl R] [IsTrans σ R]
    {checked : Except Failure Unit} (hcall : checked = .ok () → call.Within R) :
    (guarded checked call after).Within R := by
  apply Action.Within.checked
  intro _ hchecked
  apply Action.Within.bind (hcall hchecked).attempt
  intro answer
  exact .ofExcept _

end RealmDriver.Controller
