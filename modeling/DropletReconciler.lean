import DropletReconciler.Log.Steps
import DropletReconciler.Resolver
import DropletReconciler.Session
import DropletReconciler.Proofs.Creation
import DropletReconciler.Proofs.Passes
import DropletReconciler.Proofs.OneDroplet
import DropletReconciler.Proofs.Ownership
import DropletReconciler.Proofs.Readable
import DropletReconciler.Proofs.Containment
import DropletReconciler.Proofs.Convergence
import DropletReconciler.Proofs.FailedObservation
import DropletReconciler.Proofs.Readiness
import DropletReconciler.Proofs.Layers
import DropletReconciler.Proofs.DesiredState
import DropletReconciler.Proofs.Outbound
import DropletReconciler.Proofs.Deletion
import DropletReconciler.Proofs.NotFound
import DropletReconciler.Proofs.ConditionOrder
import DropletReconciler.Proofs.PatchLog
import DropletReconciler.Proofs.Persistence
import DropletReconciler.Proofs.FirstResponse
import DropletReconciler.Proofs.Merging
import DropletReconciler.Proofs.ReadTables
import DropletReconciler.Proofs.Pairs
import DropletReconciler.Proofs.Accounts
import DropletReconciler.Proofs.Nesting
import DropletReconciler.Proofs.Misconfiguration
import DropletReconciler.Proofs.TokenResolution
import DropletReconciler.Proofs.Connection
import DropletReconciler.Proofs.MergedPaths
import DropletReconciler.Proofs.NameGrammar
import DropletReconciler.Proofs.IdentityOffers
import DropletReconciler.Proofs.RequestDecoding
import DropletReconciler.Proofs.ClosedClient
import DropletReconciler.Proofs.AttachedHandlers
import DropletReconciler.Proofs.Silencing
import DropletReconciler.Proofs.RotationSizes
import DropletReconciler.Proofs.PlainTemplates
