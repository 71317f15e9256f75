import DataLocator.Plan
import DataLocator.Interchange.Datum
import DataLocator.Interchange.Layers
import DataLocator.Interchange.Schema
import DataLocator.Json.Reader
import DataLocator.Locator.Basic
import DataLocator.Locator.Typed
import DataLocator.Conversion
import DataLocator.Value.Basic
import DataLocator.Proofs.Loading
import DataLocator.Proofs.Hops
import DataLocator.Proofs.Overlay
import DataLocator.Proofs.Steps
import DataLocator.Proofs.ReadBack
import DataLocator.Proofs.Frame
import DataLocator.Proofs.Success
import DataLocator.Proofs.Leftovers
import DataLocator.Proofs.Layering
import DataLocator.Proofs.MergeStore
import DataLocator.Proofs.Keys
import DataLocator.Proofs.Putting
import DataLocator.Proofs.Divergence
import DataLocator.Proofs.Writes
import DataLocator.Proofs.PlanRuns
import DataLocator.Proofs.PlanWrites
import DataLocator.Proofs.Building
import DataLocator.Proofs.Meeting
import DataLocator.Proofs.Validation
import DataLocator.Proofs.Objections
import DataLocator.Proofs.JsonForm
import DataLocator.Proofs.Succession
import DataLocator.Proofs.DottedForm
import DataLocator.Proofs.Placing
import DataLocator.Proofs.Absence
import DataLocator.Proofs.LayerOrder
import DataLocator.Proofs.Leaves
import DataLocator.Proofs.Nesting
import DataLocator.Proofs.Spelling
import DataLocator.Proofs.SegmentChoice
import DataLocator.Proofs.IntegerTexts
import DataLocator.Proofs.DecimalTexts
import DataLocator.Proofs.LocatorTexts
import DataLocator.Proofs.Passages
import DataLocator.Proofs.Invariants
import DataLocator.Proofs.SchemaReading
import DataLocator.Proofs.Canonical
import DataLocator.Proofs.Sessions
import DataLocator.Proofs.Ordering
import DataLocator.Proofs.Access
import DataLocator.Proofs.DottedTexts
