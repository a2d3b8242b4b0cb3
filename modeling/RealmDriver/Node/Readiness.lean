import RealmDriver.Action
import RealmDriver.Node.Info
import RealmDriver.Service.Warning

namespace RealmDriver

structure Annotator (σ : Type) where
  set (node label : String) : Action σ PatchError Bool
  clear (node label : String) : Action σ PatchError Unit

def Annotator.idle : Annotator σ where
  set _ _ := pure false
  clear _ _ := pure ()

/-- Whether the label is to be taken away in the end. -/
structure Readiness where
  labelled : Bool := false
  deriving DecidableEq, Repr

/-- The annotator beside a memory of which it knows nothing. -/
def Annotator.beside (a : Annotator σ) : Annotator (Readiness × σ) where
  set node label := (a.set node label).on Prod.snd fun s t ↦ (t.1, s)
  clear node label := (a.clear node label).on Prod.snd fun s t ↦ (t.1, s)

namespace Readiness

def stored (r : Readiness) : Readiness := { r with labelled := true }

/-- Forgets the label and tells whether there was one. -/
def swap (r : Readiness) : Bool × Readiness := (r.labelled, { r with labelled := false })

/-- What the node says about itself after the label was set or not: where the label stands it can be
reached. -/
def info (node label : String) : Except PatchError Bool → NodeInfo
  | .ok true => { id := node, topology := some (Dictionary.ofList [(label, "true")]) }
  | _ => { id := node, topology := some ∅ }

def warnings (node : String) : Except PatchError Bool → List Warning
  | .error e => [.label node e]
  | .ok _ => []

/-- Sets the label with an annotator that stands for all that happens meanwhile. -/
def announceBy (a : Annotator (Readiness × σ)) (node label : String) :
    Action (Readiness × σ) ε (NodeInfo × List Warning) := do
  let outcome ← (a.set node label).attempt
  if let .ok true := outcome then modify fun t ↦ (t.1.stored, t.2)
  pure (info node label outcome, warnings node outcome)

/-- Takes the label away, if it was set. That it could not be is nobody's concern any more. -/
def retractBy (a : Annotator (Readiness × σ)) (node label : String) : Action (Readiness × σ) ε Unit := do
  let (labelled, readiness) := (← get).1.swap
  modify fun t ↦ (readiness, t.2)
  if labelled then
    let _ ← (a.clear node label).attempt

def announce (a : Annotator σ) (node label : String) :
    Action (Readiness × σ) ε (NodeInfo × List Warning) := announceBy a.beside node label

def retract (a : Annotator σ) (node label : String) : Action (Readiness × σ) ε Unit :=
  retractBy a.beside node label

end Readiness

end RealmDriver
