import Rdma101.Lib.LabelledSystem
import Rdma101.Lib.OrderedDict
import Rdma101.Lib.SectionLogic
import Rdma101.Types
import Rdma101.Control.Wire
import Rdma101.Control.Native
import Rdma101.Control.Plane
import Rdma101.Control.System
import Rdma101.Control.Trace
import Rdma101.Control.WellFormed
import Rdma101.Control.Sections
import Rdma101.Control.Effects
import Rdma101.Control.Evolution
import Rdma101.Control.Discipline
import Rdma101.Control.Transition
import Rdma101.Control.Authenticity
import Rdma101.Control.NativeSafety
import Rdma101.Control.Wiring
import Rdma101.Control.Stale
import Rdma101.Control.Snapshots
import Rdma101.Session.Model
import Rdma101.Session.Agreement
import Rdma101.Session.Coverage
import Rdma101.Session.Counterpart
import Rdma101.Session.Calm
import Rdma101.Control.Smooth
import Rdma101.Control.Waiting
import Rdma101.Control.View
import Rdma101.Control.OwnSteps
import Rdma101.Control.HandlerSteps
import Rdma101.Control.Refinement
import Rdma101.Control.ReadyPeers
import Rdma101.Control.HalfOpen
import Rdma101.Control.Convergence
import Rdma101.Control.Exposure
import Rdma101.Control.FailedSetup
import Rdma101.Control.Acknowledged
import Rdma101.Control.LostReplies
import Rdma101.Control.OneSided
import Rdma101.Control.Published
import Rdma101.Control.RejectedName
import Rdma101.Control.Healing
import Rdma101.Control.SecondConnect
import Rdma101.Control.Recovery
import Rdma101.Lib.ByteStorage
import Rdma101.Abi.Values
import Rdma101.Abi.Header
import Rdma101.Abi.Requests
import Rdma101.Abi.Statuses
import Rdma101.Lib.HandleTable
import Rdma101.Abi.CEngine
import Rdma101.Abi.NativeEngine
import Rdma101.Abi.Errors
import Rdma101.Abi.Mirror
import Rdma101.Abi.StatusQuery
import Rdma101.Lib.RepeatUntil
import Rdma101.Transfer.Wait
import Rdma101.Transfer.Settle
import Rdma101.Lib.Exchange
import Rdma101.Processes.Communicator
import Rdma101.Processes.Collective
import Rdma101.Lib.Splice
import Rdma101.Oracle.Layout
import Rdma101.Oracle.Transfers
import Rdma101.VerbsProbe.Verbs
import Rdma101.VerbsProbe.Gate
import Rdma101.VerbsProbe.Accounting
import Rdma101.VerbsProbe.History
import Rdma101.VerbsProbe.Evidence
import Rdma101.VerbsProbe.Measurement
import Rdma101.VerbsProbe.Background
import Rdma101.Abi.Adapters
import Rdma101.Abi.OneAbi
import Rdma101.Abi.Atomic
import Rdma101.Lib.Framing
import Rdma101.Lib.FanOut
import Rdma101.RdmaCheck.Endpoints
import Rdma101.RdmaCheck.Streams
import Rdma101.RdmaCheck.Soundness
import Rdma101.RdmaCheck.Completeness
import Rdma101.Control.Publish
import Rdma101.Control.Registering
import Rdma101.Abi.RegisterMemory
import Rdma101.Lib.WaitsFor
import Rdma101.Lib.LockTable
import Rdma101.Locking.Threads
import Rdma101.Locking.Ownership
import Rdma101.Locking.Deadlock
import Rdma101.Abi.Double
import Rdma101.Abi.EngineObjects
import Rdma101.Abi.Served
import Rdma101.Abi.Stack
import Rdma101.Abi.StackTransfers
