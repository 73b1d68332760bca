import EventCanvas.Document.Edit
import EventCanvas.Host.Script
import EventCanvas.Host.Signature
import EventCanvas.Main
import EventCanvas.Proofs.Document.Creating
import EventCanvas.Proofs.Document.Frame
import EventCanvas.Proofs.Document.Saving
import EventCanvas.Proofs.Engine.Disposal
import EventCanvas.Proofs.Engine.Interpolation
import EventCanvas.Proofs.Engine.LastWrite
import EventCanvas.Proofs.Engine.Relabelling
import EventCanvas.Proofs.Engine.Representation
import EventCanvas.Proofs.Engine.Spans
import EventCanvas.Proofs.Graph.Acceptance
import EventCanvas.Proofs.Graph.Explicit
import EventCanvas.Proofs.Graph.Reloading
import EventCanvas.Proofs.Lint.Prediction
import EventCanvas.Proofs.Placeholder.Dependence
import EventCanvas.Proofs.Placeholder.Leftmost
import EventCanvas.Proofs.Preview.Agreement
import EventCanvas.Proofs.Preview.Snapshot
import EventCanvas.Proofs.Reading
import EventCanvas.Proofs.Slot.Takeover
import EventCanvas.Proofs.Trigger
import EventCanvas.Proofs.Upgrade.Keeping
import EventCanvas.Proofs.Widget.Loading
import EventCanvas.Shell.Machine
import EventCanvas.Typed
import EventCanvas.Proofs.Document.Linking
