import Lockbox.Main
import Lockbox.Volume.Survey
import Lockbox.Cipher.Aes.Inverse
import Lockbox.Proofs.Cipher.Acceptance
import Lockbox.Proofs.Cipher.Blob
import Lockbox.Proofs.Cipher.Length
import Lockbox.Proofs.Document.Disclosure
import Lockbox.Proofs.Document.Dispatch
import Lockbox.Proofs.Document.Flattening
import Lockbox.Proofs.Document.Grammar
import Lockbox.Proofs.Document.Likeness
import Lockbox.Proofs.Document.RoundTrip
import Lockbox.Proofs.Json.Literal
import Lockbox.Proofs.Json.Truncation
import Lockbox.Proofs.Key.Answer
import Lockbox.Proofs.Key.Resolution
import Lockbox.Proofs.Key.Shared
import Lockbox.Proofs.Lockstep
import Lockbox.Proofs.Path
import Lockbox.Proofs.Path.Directory
import Lockbox.Proofs.Scope
import Lockbox.Proofs.Service.Startup
import Lockbox.Proofs.Settings.Directories
import Lockbox.Proofs.Settings.Spelling
import Lockbox.Proofs.Settings.Verbatim
import Lockbox.Proofs.Slot.Progress
import Lockbox.Proofs.Slot.Renewal
import Lockbox.Proofs.Slot.Shared
import Lockbox.Proofs.Slot.SingleFlight
import Lockbox.Proofs.Store.Access
import Lockbox.Proofs.Store.Addressing
import Lockbox.Proofs.Store.Coherence
import Lockbox.Proofs.Store.Course
import Lockbox.Proofs.Store.Creation
import Lockbox.Proofs.Store.Direct
import Lockbox.Proofs.Store.Discretion
import Lockbox.Proofs.Store.Draws
import Lockbox.Proofs.Store.Errands
import Lockbox.Proofs.Store.Exactness
import Lockbox.Proofs.Store.Exclusion
import Lockbox.Proofs.Store.Failsafe
import Lockbox.Proofs.Store.Failure
import Lockbox.Proofs.Store.Faithful
import Lockbox.Proofs.Store.Generation
import Lockbox.Proofs.Store.Journey
import Lockbox.Proofs.Store.KeyValue
import Lockbox.Proofs.Store.Load
import Lockbox.Proofs.Store.Opening
import Lockbox.Proofs.Store.Orphans
import Lockbox.Proofs.Store.Quiescence
import Lockbox.Proofs.Store.Removal
import Lockbox.Proofs.Store.Sequential
import Lockbox.Proofs.Store.Settled
import Lockbox.Proofs.Store.Shared
import Lockbox.Proofs.Store.Stage
import Lockbox.Proofs.Store.Transparency
import Lockbox.Proofs.Store.Upgrade
import Lockbox.Proofs.Text.Case
import Lockbox.Proofs.Text.Hex
import Lockbox.Proofs.Text.Lossy
import Lockbox.Proofs.Text.Quoted
import Lockbox.Proofs.Text.Utf8
import Lockbox.Proofs.Vault
import Lockbox.Proofs.Vault.Concealment
import Lockbox.Proofs.Vault.Permanence
import Lockbox.Proofs.Vault.Usable
import Lockbox.Proofs.Volume.Atomic
import Lockbox.Proofs.Volume.Likeness
import Lockbox.Proofs.Volume.Retentive
import Lockbox.Proofs.Volume.Steady
import Lockbox.Proofs.Volume.Stepwise
import Lockbox.Proofs.Volume.Tree.Creation
import Lockbox.Proofs.Volume.Tree.Likeness
import Lockbox.Proofs.Volume.Tree.Plain
import Lockbox.Proofs.Volume.Tree.Steady
import Lockbox.Proofs.Volume.Tree.Unlinking
import Lockbox.Proofs.Volume.Tree.Walk
import Lockbox.Proofs.Volume.Unlinking
import Lockbox.Proofs.World
