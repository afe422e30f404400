import MallocLayer.ArtifactIndex
import MallocLayer.Bindings
import MallocLayer.CSurface
import MallocLayer.Cli.Run
import MallocLayer.Client.Blocks
import MallocLayer.Client.Caller
import MallocLayer.Client.Run
import MallocLayer.Config.Cache
import MallocLayer.Emitter
import MallocLayer.Files.Tree
import MallocLayer.Files.Tree.Lemmas
import MallocLayer.Json.Printer
import MallocLayer.Json.Reader
import MallocLayer.LogEntry.Validation
import MallocLayer.Main
import MallocLayer.Primitive.Arena
import MallocLayer.Primitive.HeaderHeap
import MallocLayer.Proofs.AlignedCourse
import MallocLayer.Proofs.AlignedPlacement
import MallocLayer.Proofs.Alignment
import MallocLayer.Proofs.Allocation
import MallocLayer.Proofs.ArenaContract
import MallocLayer.Proofs.ByteRanges
import MallocLayer.Proofs.CallTrace
import MallocLayer.Proofs.CheckLogic
import MallocLayer.Proofs.CoarseGrowth
import MallocLayer.Proofs.Contract
import MallocLayer.Proofs.DocumentedOwnership
import MallocLayer.Proofs.EntryDecoding
import MallocLayer.Proofs.FailedAlignment
import MallocLayer.Proofs.FailedRealloc
import MallocLayer.Proofs.FewRequests
import MallocLayer.Proofs.ForkBracket
import MallocLayer.Proofs.Growth
import MallocLayer.Proofs.HeaderHeapContract
import MallocLayer.Proofs.Holdings
import MallocLayer.Proofs.JsonRoundTrip
import MallocLayer.Proofs.LifecycleLog
import MallocLayer.Proofs.LineValidation
import MallocLayer.Proofs.NoFalseAlarm
import MallocLayer.Proofs.OriginTable
import MallocLayer.Proofs.Ownership
import MallocLayer.Proofs.Policy
import MallocLayer.Proofs.Program
import MallocLayer.Proofs.Projection
import MallocLayer.Proofs.Reallocation
import MallocLayer.Proofs.Refinement
import MallocLayer.Proofs.Registration
import MallocLayer.Proofs.ResizePolicy
import MallocLayer.Proofs.ScenarioPasses
import MallocLayer.Proofs.SelfCheckLog
import MallocLayer.Proofs.SiblingFiles
import MallocLayer.Proofs.Surfaces
import MallocLayer.Proofs.SymbolNames
import MallocLayer.Proofs.SystemProjection
import MallocLayer.Proofs.Tenancy
import MallocLayer.Proofs.Tracing
import MallocLayer.Proofs.Twins
import MallocLayer.Redirection
import MallocLayer.SelfCheck.Artifacts
import MallocLayer.SelfCheck.Detail
import MallocLayer.SelfCheck.Run
import MallocLayer.SelfCheck.Scenario
import MallocLayer.Sha256
import MallocLayer.Timestamp
import MallocLayer.ToolError
import MallocLayer.Proofs.StrayLookups
import MallocLayer.Proofs.RefusedLines
import MallocLayer.Proofs.HeaderHeapRuns
import MallocLayer.Proofs.ZoneBatches
import MallocLayer.Proofs.ExactAlignment
import MallocLayer.Proofs.SingleResolution
import MallocLayer.Proofs.TraceIds
import MallocLayer.Proofs.GeneratedBindings
