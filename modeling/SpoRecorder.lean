import SpoRecorder.Source.GoStrings
import SpoRecorder.Source.Types
import SpoRecorder.Source.Annotations
import SpoRecorder.Source.SelinuxPolicy
import SpoRecorder.Source.Enricher
import SpoRecorder.Source.Recorder
import SpoRecorder.Source.RecorderFrame
import SpoRecorder.Source.RecorderOutcomes
import SpoRecorder.Source.ReconcileSteps
import SpoRecorder.Source.Setup
import SpoRecorder.Guarantees.PolicyFormat
import SpoRecorder.Guarantees.PolicyBuilder
import SpoRecorder.Guarantees.ProfileNames
import SpoRecorder.Guarantees.HookPaths
import SpoRecorder.Guarantees.Tracking
import SpoRecorder.Guarantees.PendingPods
import SpoRecorder.Guarantees.Incarnations
import SpoRecorder.Guarantees.Collection
import SpoRecorder.Guarantees.Retries
import SpoRecorder.Guarantees.Aggregator
import SpoRecorder.Guarantees.AggregatorHistory
import SpoRecorder.Guarantees.Interleaving
import SpoRecorder.Guarantees.EventFilter
