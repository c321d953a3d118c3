import CanSentinel.Lib.Python
import CanSentinel.Lib.Text
import CanSentinel.Lib.Struct
import CanSentinel.Lib.Entropy
import CanSentinel.Lib.EntropyLaws
import CanSentinel.Lib.Metrics
import CanSentinel.Lib.Quantile
import CanSentinel.Lib.StableSort
import CanSentinel.Lib.Spacing
import CanSentinel.Lib.Hamming
import CanSentinel.Lib.Periodic
import CanSentinel.Lib.Csv
import CanSentinel.Lib.CsvText
import CanSentinel.Lib.Machine
import CanSentinel.Lib.Memo
import CanSentinel.Lib.Deque
import CanSentinel.Lib.History
import CanSentinel.Lib.Arrivals
import CanSentinel.Lib.Notify
import CanSentinel.Lib.Framing
import CanSentinel.Lib.PartialWrites
import CanSentinel.Lib.Queue
import CanSentinel.Lib.WorkQueue
import CanSentinel.Lib.WriteBehind
import CanSentinel.Bus.Frame
import CanSentinel.Bus.VirtualBus
import CanSentinel.Bus.Delivery
import CanSentinel.Bus.Concurrent
import CanSentinel.Parser.Signals
import CanSentinel.Parser.Telemetry
import CanSentinel.Parser.Bookkeeping
import CanSentinel.Ml.Features
import CanSentinel.Ml.PayloadEntropy
import CanSentinel.Ml.FeatureHistory
import CanSentinel.Ml.PayloadChange
import CanSentinel.Ml.Dataset
import CanSentinel.Ml.IsolationForest
import CanSentinel.Ml.Persistence
import CanSentinel.Ml.Evaluation
import CanSentinel.Ml.ModelManager
import CanSentinel.Detection.StreamDetector
import CanSentinel.Detection.Agreement
import CanSentinel.Detection.Isolation
import CanSentinel.Detection.ThreatDensity
import CanSentinel.Detection.AlertEngine
import CanSentinel.Detection.AlertIds
import CanSentinel.Detection.Flood
import CanSentinel.Detection.Severity
import CanSentinel.Detection.Fuzzing
import CanSentinel.Detection.Forensics
import CanSentinel.Detection.Offline
import CanSentinel.Sim.Vehicle
import CanSentinel.Sim.EcuLoops
import CanSentinel.Sim.RoundTrip
import CanSentinel.Sim.NativeEcu
import CanSentinel.Sim.Batch
import CanSentinel.Sim.DrivingCycle
import CanSentinel.Sim.Bounds
import CanSentinel.Sim.Live
import CanSentinel.Sim.OnBus
import CanSentinel.Sim.WindDown
import CanSentinel.Sim.Timeline
import CanSentinel.Sim.Schedule
import CanSentinel.Sim.NativePhysics
import CanSentinel.Broadcast.HexPayload
import CanSentinel.Broadcast.HexNotation
import CanSentinel.Broadcast.MultiDemo
import CanSentinel.Ipc.Record
import CanSentinel.Ipc.Server
import CanSentinel.Ipc.Reassembly
import CanSentinel.Ipc.Coverage
import CanSentinel.Ipc.Sender
import CanSentinel.Ipc.Sync
import CanSentinel.Ipc.Filter
import CanSentinel.Ipc.PeerLoss
import CanSentinel.Logger.CsvLogger
import CanSentinel.Logger.Replay
import CanSentinel.Logger.Operations
import CanSentinel.Logger.Sessions
import CanSentinel.Logger.AfterClose
import CanSentinel.Logger.Retry
import CanSentinel.Logger.Concurrent
import CanSentinel.Logger.ParseOrder
import CanSentinel.Logger.FileText
import CanSentinel.Logger.Datasets
import CanSentinel.Attacks.Suite
import CanSentinel.Attacks.Dataset
import CanSentinel.Attacks.NativeInjector
import CanSentinel.Detection.Verdicts
import CanSentinel.Detection.StressTest
import CanSentinel.Ipc.Dispatch
import CanSentinel.Ipc.Shutdown
