import RealmDriver.Proofs.Realm.Alike
import RealmDriver.Realm.Remote

namespace RealmDriver

inductive Plan (α : Type)
  | done (result : Except RealmError α)
  | session (command : List String) (next : Except RealmError String → Plan α)

namespace Plan

variable {σ α β : Type}

def bind (f : α → Plan β) : Plan α → Plan β
  | done (.ok a) => f a
  | done (.error e) => done (.error e)
  | session command next => session command fun printed ↦ (next printed).bind f

instance : Monad Plan where
  pure a := done (.ok a)
  bind p f := p.bind f

def call (command : List String) : Plan String := session command done

def read (command : List String) : Plan (List VolumeRecord) := do
  let text ← call command
  done (Listing.read text)

def lookup (name : String) : Plan VolumeRecord := do
  let volumes ← read (Command.lookup name)
  match volumes.find? (·.name = VolumeName.strip name) with
  | some record => pure record
  | none => done (.error ⟨.notFound, s!"no volume with name {VolumeName.path name}"⟩)

def ofOperation : Realm.Operation α → Plan α
  | .create name parameters => do
    let _ ← call (Command.create name parameters)
    lookup name
  | .delete name => do let _ ← call (Command.delete name)
  | .expand name bytes => do
    let record ← lookup name
    (Remote.growth record name (Quota.ofBytes bytes)).forM fun command ↦ do
      let _ ← call command
  | .lookup name => lookup name
  | .list => read Command.list

/-- A plan carried out, where a session is whatever runs a command. -/
def action (run : List String → Action σ RealmError String) : Plan α → Action σ RealmError α
  | done result => .ofExcept result
  | session command next => do (next (← (run command).attempt)).action run

variable (run : List String → Action σ RealmError String)

theorem action_bind (p : Plan α) (f : α → Plan β) :
    (p >>= f).action run = p.action run >>= fun a ↦ (f a).action run := by
  induction p with
  | done result => cases result <;> rfl
  | session command next ih =>
    rw [action, bind_assoc]
    exact congrArg _ (funext ih)

theorem action_call (command : List String) : (call command).action run = run command := by
  funext s
  change ((run command).attempt >>= Action.ofExcept).outcome s = (run command).outcome s
  rw [Action.outcome_bind, Action.outcome_attempt]
  rfl

theorem action_forM {commands : List (List String)} {f : List String → Plan PUnit} :
    (commands.forM f).action run = commands.forM fun command ↦ (f command).action run := by
  induction commands with
  | nil => rfl
  | cons command commands ih =>
    change (f command >>= fun _ ↦ commands.forM f).action run = _
    rw [action_bind, ih]
    rfl

section

variable {ω : Type} (s : SessionSettings) (m : Machine ω) (secrets : Dictionary)

theorem action_discard (command : List String) :
    (do let _ ← call command : Plan PUnit).action (Session.run s m secrets) =
      (do let _ ← Session.run s m secrets command) := by
  rw [action_bind, action_call]
  rfl

theorem action_read (command : List String) :
    (read command).action (Session.run s m secrets) = Remote.read s m secrets command := by
  rw [read, action_bind, action_call]
  rfl

theorem action_lookup (name : String) :
    (lookup name).action (Session.run s m secrets) = Remote.lookup s m name secrets := by
  rw [lookup, action_bind, action_read]
  refine congrArg _ (funext fun volumes ↦ ?_)
  cases volumes.find? (·.name = VolumeName.strip name) <;> rfl

theorem action_ofOperation (op : Realm.Operation α) :
    (ofOperation op).action (Session.run s m secrets) = (Remote.realm s m).perform secrets op := by
  cases op with
  | create name parameters =>
    rw [ofOperation, action_bind, action_call]
    exact congrArg _ (funext fun _ ↦ action_lookup s m secrets name)
  | delete name => exact action_discard s m secrets _
  | expand name bytes =>
    rw [ofOperation, action_bind, action_lookup]
    refine congrArg _ (funext fun record ↦ ?_)
    rw [action_forM]
    exact congrArg _ (funext fun command ↦ action_discard s m secrets command)
  | lookup name => exact action_lookup s m secrets name
  | list => exact action_read s m secrets _

end

end Plan

end RealmDriver
