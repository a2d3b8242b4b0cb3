import RealmDriver.Proofs.Controller.Guarded
import RealmDriver.Proofs.Creation.Outcome
import RealmDriver.Service.Call
import RealmDriver.Service.Plugin

namespace RealmDriver

def Failure.code (f : Failure) : Code := f.status.code

variable {ε ε' α β : Type} {code : ε → Code} {x : Except ε α}

def Blames (code : ε → Code) (x : Except ε α) : Prop :=
  ∀ e, x = .error e → code e = .invalidArgument

def Spares (code : ε → Code) (x : Except ε α) : Prop :=
  ∀ e, x = .error e → code e ≠ .invalidArgument

namespace Blames

theorem ok (a : α) : Blames code (.ok a) := by
  intro e he
  cases he

theorem error {e : ε} (he : code e = .invalidArgument) : Blames code (.error e : Except ε α) := by
  intro e' he'
  cases he'
  exact he

theorem bind {f : α → Except ε β} (hx : Blames code x) (hf : ∀ a, Blames code (f a)) :
    Blames code (x >>= f) := by
  cases x with
  | error e =>
    intro e' he'
    cases he'
    exact hx e rfl
  | ok a => exact hf a

theorem guard {p : Prop} [Decidable p] {e : ε} {f : PUnit → Except ε α}
    (he : code e = .invalidArgument) (hx : Blames code x) :
    Blames code (if p then throw e >>= f else x) := by
  split
  · exact error he
  · exact hx

theorem mapError {f : ε' → ε} (hf : ∀ e, code (f e) = .invalidArgument) (x : Except ε' α) :
    Blames code (x.mapError f) := by
  cases x with
  | error e => exact error (hf e)
  | ok a => exact ok a

theorem mapM {f : β → Except ε α} (hf : ∀ b, Blames code (f b)) (bs : List β) :
    Blames code (bs.mapM f) := by
  induction bs with
  | nil => exact ok []
  | cons b bs ih =>
    rw [List.mapM_cons]
    apply bind (hf b)
    intro a
    apply bind ih
    intro as
    exact ok _

end Blames

namespace Spares

theorem ok (a : α) : Spares code (.ok a) := by
  intro e he
  cases he

theorem error {e : ε} (he : code e ≠ .invalidArgument) : Spares code (.error e : Except ε α) := by
  intro e' he'
  cases he'
  exact he

theorem map (f : α → β) (hx : Spares code x) : Spares code (x.map f) := by
  cases x with
  | error e => exact error (hx e rfl)
  | ok a => exact ok (f a)

end Spares

section Messages

theorem Capability.ofMessage_blames (m : CapabilityMessage) :
    Blames Status.code (ofMessage m) := by
  rw [ofMessage]
  split
  · exact .error rfl
  · exact .error rfl
  · exact .ok _

theorem ContentSource.ofMessage_blames (m : SourceMessage) : Blames Status.code (ofMessage m) := by
  unfold ofMessage
  split
  · exact .ok _
  all_goals
    split
    · exact .error rfl
    · exact .ok _

theorem CreateRequest.ofMessage_blames (m : CreateMessage) : Blames Status.code (ofMessage m) := by
  apply Blames.guard rfl
  apply Blames.guard rfl
  apply Blames.bind (.mapM Capability.ofMessage_blames _)
  intro capabilities
  apply Blames.bind (ContentSource.ofMessage_blames _)
  intro source
  exact .ok _

theorem DeleteRequest.ofMessage_blames (m : DeleteMessage) : Blames Status.code (ofMessage m) := by
  rw [ofMessage]
  split
  · exact .error rfl
  · exact .ok _

theorem ValidateRequest.ofMessage_blames (m : ValidateMessage) :
    Blames Status.code (ofMessage m) := by
  apply Blames.guard rfl
  apply Blames.guard rfl
  apply Blames.bind (.mapM Capability.ofMessage_blames _)
  intro capabilities
  exact .ok _

theorem ExpandRequest.ofMessage_blames (m : ExpandMessage) : Blames Status.code (ofMessage m) := by
  apply Blames.guard rfl
  split
  · apply Blames.bind
    · cases m.capability with
      | none => exact .ok _
      | some c =>
        apply Blames.bind (Capability.ofMessage_blames c)
        intro capability
        exact .ok _
    · intro capability
      exact .ok _
  · exact .error rfl

theorem Volume.toMessage_spares (v : Volume) : Spares Status.code v.toMessage := by
  rw [toMessage]
  split
  · exact .error (by decide)
  · exact .ok _

theorem ExpandResponse.toMessage_spares (r : ExpandResponse) :
    Spares Status.code r.toMessage := by
  rw [toMessage]
  split
  · exact .error (by decide)
  · exact .ok _

end Messages

section Handlers

open Controller

theorem Controller.checkCredentials_blames (secrets : Dictionary) :
    Blames Failure.code (checkCredentials secrets) :=
  .mapError (fun _ ↦ rfl) _

theorem Controller.checkValidate_blames (r : ValidateRequest) :
    Blames Failure.code (checkValidate r) := by
  apply Blames.bind (checkCredentials_blames _)
  intro _
  split
  · exact .error rfl
  · exact .ok _

theorem Controller.checkExpand_blames (r : ExpandRequest) :
    Blames Failure.code (checkExpand r) := by
  apply Blames.bind (checkCredentials_blames _)
  intro _
  split
  · exact .error rfl
  · exact .ok _

theorem Creation.check_blames (r : CreateRequest) : Blames Failure.code (check r) := by
  apply Blames.bind (.mapError (fun _ ↦ rfl) _)
  intro _
  exact .mapError (fun _ ↦ rfl) _

theorem Creation.realmFailure_code (call : String) (e : RealmError) :
    (realmFailure call e).code ≠ .invalidArgument := by
  simp [realmFailure, Failure.code, Failure.status]

theorem Controller.afterDelete_spares (answer : Except RealmError Unit) :
    Spares Failure.code (afterDelete answer) := by
  unfold afterDelete
  split
  · exact .ok _
  · split
    · exact .ok _
    · exact .error (Creation.realmFailure_code _ _)

theorem Controller.afterLookup_spares (r : ValidateRequest)
    (answer : Except RealmError VolumeRecord) : Spares Failure.code (afterLookup r answer) := by
  unfold afterLookup
  split
  · exact .ok _
  · split
    · exact .error (by simp [Failure.code, Failure.status])
    · exact .error (by simp [Failure.code, Failure.status])

theorem Controller.afterExpand_spares (r : ExpandRequest) (answer : Except RealmError Unit) :
    Spares Failure.code (afterExpand r answer) := by
  unfold afterExpand
  split
  · exact .ok _
  · split
    · exact .error (by simp [Failure.code, Failure.status])
    · exact .error (Creation.realmFailure_code _ _)

theorem Creation.afterCreate_spares {r : CreateRequest} {answer : Except RealmError VolumeRecord}
    {outcome : Except Failure Created} (h : afterCreate r answer = .finish outcome) :
    Spares Failure.code outcome := by
  unfold afterCreate at h
  split at h
  · cases h
    exact .ok _
  · split at h
    · cases h
    · cases h
      exact .error (realmFailure_code _ _)

theorem Creation.afterLookup_spares (r : CreateRequest)
    (answer : Except RealmError VolumeRecord) : Spares Failure.code (afterLookup r answer) := by
  unfold afterLookup
  split
  · split
    · exact .error (by simp [Failure.code, Failure.status])
    · exact .ok _
  · exact .error (realmFailure_code _ _)

end Handlers

end RealmDriver
