import RealmDriver.Machine.Script
import RealmDriver.Main
import RealmDriver.Mount.Host
import RealmDriver.Mount.Memory
import RealmDriver.Proofs.Controller.Veil
import RealmDriver.Proofs.Coupling
import RealmDriver.Proofs.Creation.Attributes
import RealmDriver.Proofs.Creation.Fit
import RealmDriver.Proofs.Creation.Outcome
import RealmDriver.Proofs.Creation.Parameters
import RealmDriver.Proofs.Creation.Race
import RealmDriver.Proofs.Creation.Repetition
import RealmDriver.Proofs.Deletion.Race
import RealmDriver.Proofs.Dictionary
import RealmDriver.Proofs.Enlargement.Capacity
import RealmDriver.Proofs.Enlargement.Remote
import RealmDriver.Proofs.Files.Making
import RealmDriver.Proofs.Files.Path
import RealmDriver.Proofs.Files.Shape
import RealmDriver.Proofs.Interleaving
import RealmDriver.Proofs.KeyManager.Lifetime
import RealmDriver.Proofs.Mount.Binding
import RealmDriver.Proofs.Mount.Commands
import RealmDriver.Proofs.Mount.Grammar
import RealmDriver.Proofs.Mount.KernelTable
import RealmDriver.Proofs.Mount.Lookup
import RealmDriver.Proofs.Mount.Spelling
import RealmDriver.Proofs.Mount.Stacking
import RealmDriver.Proofs.Mount.Steady
import RealmDriver.Proofs.Node.Calls
import RealmDriver.Proofs.Node.Labelling
import RealmDriver.Proofs.Node.Publishing
import RealmDriver.Proofs.Node.Unpublishing
import RealmDriver.Proofs.Number.Decimal
import RealmDriver.Proofs.Number.Integer
import RealmDriver.Proofs.Quota
import RealmDriver.Proofs.Quota.Conversion
import RealmDriver.Proofs.Realm.Alike
import RealmDriver.Proofs.Realm.Atomicity
import RealmDriver.Proofs.Realm.Command
import RealmDriver.Proofs.Realm.Concealment
import RealmDriver.Proofs.Realm.Context
import RealmDriver.Proofs.Realm.Copy
import RealmDriver.Proofs.Realm.Decoding
import RealmDriver.Proofs.Realm.Entity
import RealmDriver.Proofs.Realm.Field
import RealmDriver.Proofs.Realm.KeyFile
import RealmDriver.Proofs.Realm.Listing
import RealmDriver.Proofs.Realm.Markup
import RealmDriver.Proofs.Realm.Numbering
import RealmDriver.Proofs.Realm.Plan
import RealmDriver.Proofs.Realm.Precedence
import RealmDriver.Proofs.Realm.Priority
import RealmDriver.Proofs.Realm.Remote
import RealmDriver.Proofs.Realm.Secrecy
import RealmDriver.Proofs.Realm.Session
import RealmDriver.Proofs.Realm.Stage
import RealmDriver.Proofs.Realm.Verdict
import RealmDriver.Proofs.Realm.Words
import RealmDriver.Proofs.Service.Absence
import RealmDriver.Proofs.Service.Confirmation
import RealmDriver.Proofs.Service.History
import RealmDriver.Proofs.Service.Paths
import RealmDriver.Proofs.Service.Redaction
import RealmDriver.Proofs.Service.Veil
import RealmDriver.Proofs.Text.Shell
import RealmDriver.Proofs.Validation.Parameters
import RealmDriver.Realm.Memory
import RealmDriver.Realm.Remote
import RealmDriver.Server.Socket
