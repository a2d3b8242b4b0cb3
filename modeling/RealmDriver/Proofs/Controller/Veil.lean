import RealmDriver.Proofs.Controller.Refusal
import RealmDriver.Proofs.Realm.Alike

namespace RealmDriver

variable {σ σ' α β : Type} {p : Prop}

/-- Failures with the same code. Those with the code of an inner failure are the same just if `p` holds. -/
structure Status.Agree (p : Prop) (status status' : Status) : Prop where
  code : status.code = status'.code
  internal : status.code = .internal → (status = status' ↔ p)

def Failure.Agree (p : Prop) (f f' : Failure) : Prop := f.status.Agree p f'.status

theorem Status.agree_self (status : Status) : status.Agree True status :=
  ⟨rfl, fun _ ↦ iff_of_true rfl trivial⟩

instance : Std.Refl (Failure.Agree True) := ⟨fun f ↦ f.status.agree_self⟩

theorem Failure.volumeNotFound_agree (text text' : String) :
    (volumeNotFound text).Agree p (.volumeNotFound text') :=
  ⟨rfl, fun hinternal ↦ nomatch hinternal⟩

theorem Blames.agree {x : Except Failure α} (h : Blames Failure.code x) :
    ∀ f, x = .error f → f.Agree p f := by
  intro f hf
  refine ⟨rfl, fun hinternal ↦ absurd ((h f hf).symm.trans hinternal) (by decide)⟩

def RealmError.text? : Except RealmError α → Option String
  | .ok _ => none
  | .error e => some e.text

theorem Creation.realmFailure_congr (call : String) {e e' : RealmError} (h : e.SameKind e') :
    realmFailure call e = realmFailure call e' := by
  rw [realmFailure, realmFailure, h]

namespace Creation

variable {r : CreateRequest} {answer answer' : Except RealmError VolumeRecord}

theorem afterCreate_congr (h : Matching RealmError.SameKind Eq answer answer') :
    afterCreate r answer = afterCreate r answer' := by
  cases h with
  | ok hrecord => rw [hrecord]
  | error hkind =>
    rw [afterCreate, afterCreate, realmFailure_congr _ hkind, hkind]

theorem afterLookup_congr (h : Matching RealmError.SameKind Eq answer answer') :
    afterLookup r answer = afterLookup r answer' := by
  cases h with
  | ok hrecord => rw [hrecord]
  | error hkind => rw [afterLookup, afterLookup, realmFailure_congr _ hkind]

variable {R : σ → σ' → Prop} {realm : Realm σ} {realm' : Realm σ'}

theorem run_paired (h : realm.Alike R realm') (r : CreateRequest) :
    Action.Paired R (Failure.Agree True) Eq (run realm r) (run realm' r) := by
  have hsame {γ : Type} (x : Except Failure γ) : Matching (Failure.Agree True) Eq x x :=
    .of_eq rfl fun f _ ↦ refl f
  apply Action.Paired.bind (.ofExcept (hsame _))
  intro _ _ _
  apply Action.Paired.bind (h _ (.create r.name (parameters r.parameters r.capacity)) r.secrets).attempt
  intro answer answer' hanswer
  rw [afterCreate_congr hanswer]
  cases afterCreate r answer' with
  | finish outcome => exact .ofExcept (hsame outcome)
  | lookup =>
    apply Action.Paired.bind (h _ (.lookup r.name) r.secrets).attempt
    intro found found' hfound
    rw [afterLookup_congr hfound]
    exact .ofExcept (hsame _)

end Creation

namespace Controller

open Creation (realmFailure_congr)

theorem afterDelete_congr {answer answer' : Except RealmError Unit}
    (h : Matching RealmError.SameKind Eq answer answer') : afterDelete answer = afterDelete answer' := by
  cases h with
  | ok => rfl
  | error hkind => rw [afterDelete, afterDelete, realmFailure_congr _ hkind, hkind]

theorem afterExpand_matching (r : ExpandRequest) {answer answer' : Except RealmError Unit}
    (h : Matching RealmError.SameKind Eq answer answer') :
    Matching (Failure.Agree True) Eq (afterExpand r answer) (afterExpand r answer') := by
  cases h with
  | ok => exact .ok rfl
  | @error e e' hkind =>
    rw [afterExpand, afterExpand, realmFailure_congr _ hkind, hkind]
    cases e'.kind with
    | notFound => exact .error (Failure.volumeNotFound_agree _ _)
    | _ => exact .error (refl _)

theorem afterLookup_matching (r : ValidateRequest) {answer answer' : Except RealmError VolumeRecord}
    (h : Matching RealmError.SameKind Eq answer answer') :
    Matching (Failure.Agree (RealmError.text? answer = RealmError.text? answer')) Eq
      (afterLookup r answer) (afterLookup r answer') := by
  cases h with
  | ok => exact .ok rfl
  | @error e e' hkind =>
    -- the kind stands in front of the text, and is the same
    have hmessage : e.message = e'.message ↔ e.text = e'.text := by
      rw [RealmError.message, RealmError.message, hkind]
      simp
    have hinternal : Failure.Agree (RealmError.text? (Except.error e : Except RealmError VolumeRecord) =
        RealmError.text? (Except.error e' : Except RealmError VolumeRecord))
        (.internal e.message) (.internal e'.message) :=
      ⟨rfl, fun _ ↦ by simp [Failure.status, RealmError.text?, hmessage]⟩
    rw [afterLookup, afterLookup, hkind]
    cases e'.kind with
    | notFound => exact .error (Failure.volumeNotFound_agree _ _)
    | _ => exact .error hinternal

variable {R : σ → σ' → Prop} {checked : Except Failure Unit} {call : Action σ RealmError α}
  {call' : Action σ' RealmError α} {after : Except RealmError α → Except Failure β} {s : σ} {s' : σ'}

theorem guarded_coupled (hchecked : Blames Failure.code checked)
    (hcall : Action.Coupled R RealmError.SameKind Eq (call.outcome s) (call'.outcome s')) (hs : R s s')
    (hafter : Matching (Failure.Agree p) Eq (after (call.outcome s).1) (after (call'.outcome s').1)) :
    Action.Coupled R (Failure.Agree p) Eq ((guarded checked call after).outcome s)
      ((guarded checked call' after).outcome s') := by
  cases checked with
  | error f =>
    rw [guarded_refused, guarded_refused]
    exact ⟨.error (hchecked.agree f rfl), hs⟩
  | ok =>
    rw [guarded_admitted, guarded_admitted]
    exact ⟨hafter, hcall.state⟩

variable {realm : Realm σ} {realm' : Realm σ'} (h : realm.Alike R realm') (hs : R s s')
include h hs

theorem delete_coupled (r : DeleteRequest) : Action.Coupled R (Failure.Agree True) Eq
    ((delete realm r).outcome s) ((delete realm' r).outcome s') := by
  have hcall := h _ (.delete r.volumeId) r.secrets s s' hs
  rw [delete_eq, delete_eq]
  exact guarded_coupled (checkCredentials_blames _) hcall hs
    (.of_eq (afterDelete_congr hcall.result) fun f _ ↦ refl f)

theorem expand_coupled (r : ExpandRequest) : Action.Coupled R (Failure.Agree True) Eq
    ((expand realm r).outcome s) ((expand realm' r).outcome s') := by
  have hcall := h _ (.expand r.volumeId r.capacity.required.toInt) r.secrets s s' hs
  rw [expand_eq, expand_eq]
  exact guarded_coupled (checkExpand_blames r) hcall hs (afterExpand_matching r hcall.result)

theorem validate_coupled (r : ValidateRequest) :
    let said := ((realm.lookup r.volumeId r.secrets).outcome s).1
    let said' := ((realm'.lookup r.volumeId r.secrets).outcome s').1
    Action.Coupled R (Failure.Agree (RealmError.text? said = RealmError.text? said')) Eq
      ((validate realm r).outcome s) ((validate realm' r).outcome s') := by
  have hcall := h _ (.lookup r.volumeId) r.secrets s s' hs
  rw [validate_eq, validate_eq]
  exact guarded_coupled (checkValidate_blames r) hcall hs (afterLookup_matching r hcall.result)

end Controller

end RealmDriver
