import CyberRT.Transport.ReaderTopology
import CyberRT.Transport.Delivery
import CyberRT.Transport.ModeAgreement
import CyberRT.Transport.Replay
import CyberRT.Transport.HandedOnce
import CyberRT.Bytes.File
import CyberRT.Record.FileWriter
import CyberRT.Record.Conservation
import CyberRT.Bytes.Wire
import CyberRT.Record.Wire
import CyberRT.Record.FileReader
import CyberRT.Record.Layout
import CyberRT.Record.SectionReader
import CyberRT.Record.ReadBack
import CyberRT.Lists.Windows
import CyberRT.Record.CompleteRecord
import CyberRT.Record.RecordWriter
import CyberRT.Record.Segments
import CyberRT.Record.TimeBounds
import CyberRT.Record.ViewedRange
import CyberRT.Timer.TimingWheel
import CyberRT.Timer.Countdown
import CyberRT.Timer.Punctual
import CyberRT.Timer.WheelTurns
import CyberRT.Shm.ConditionNotifier
import CyberRT.Shm.Listening
import CyberRT.Shm.NotifierSteps
import CyberRT.Shm.Segment
import CyberRT.Shm.Attachment
import CyberRT.Shm.SegmentSteps
import CyberRT.Discovery.Graph
import CyberRT.Discovery.Registry
import CyberRT.Discovery.Pairing
import CyberRT.Discovery.EdgeCount
import CyberRT.Discovery.Traversal
import CyberRT.Discovery.Roles
import CyberRT.Discovery.Manager
import CyberRT.Discovery.SpecificManagers
import CyberRT.Discovery.Warehouses
import CyberRT.Discovery.Indexes
import CyberRT.Discovery.Neighbours
import CyberRT.Discovery.ModuleLeave
import CyberRT.Discovery.Flows
import CyberRT.Discovery.FlowGraph
import CyberRT.Lists.Since
import CyberRT.Discovery.Network
import CyberRT.Discovery.Replicas
import CyberRT.Discovery.Claimants
import CyberRT.Discovery.ForeignLeave
import CyberRT.Services.Rpc
import CyberRT.Services.Correlation
import CyberRT.Data.CacheBuffer
import CyberRT.Croutine.Routine
import CyberRT.Croutine.DataTask
import CyberRT.Croutine.WakeUp
import CyberRT.Scheduler.RunQueues
import CyberRT.Scheduler.Contexts
import CyberRT.Scheduler.Exclusion
import CyberRT.Scheduler.Removal
import CyberRT.Scheduler.Dispatch
import CyberRT.Scheduler.Placement
import CyberRT.Scheduler.TaskNames
import CyberRT.Base.BoundedQueue
import CyberRT.Base.TicketOrder
import CyberRT.Data.DataVisitor
import CyberRT.Data.Deliveries
import CyberRT.Data.AllLatest
import CyberRT.Component.Blocker
import CyberRT.Component.Component
import CyberRT.Component.ModesAgree
import CyberRT.Base.AtomicHashMap
import CyberRT.Base.Buckets
import CyberRT.Base.MapCalls
import CyberRT.Base.MapSteps
import CyberRT.Base.MapAnswers
import CyberRT.Io.Interest
import CyberRT.Task.TaskManager
import CyberRT.Task.Wakefulness
import CyberRT.Task.Handover
import CyberRT.Task.Periodic
import CyberRT.Io.PollHandler
import CyberRT.Io.Blocking
import CyberRT.Memory.Sharing
import CyberRT.Timer.Timer
import CyberRT.Timer.StopFinal
import CyberRT.Record.Recoverer
import CyberRT.Record.Recovery
import CyberRT.Logger.AsyncLogger
import CyberRT.Logger.Forwarding
import CyberRT.Logger.Routing
import CyberRT.Logger.SpinFlag
import CyberRT.Shm.Room
import CyberRT.Bytes.Buffer
import CyberRT.Shm.BlockSteps
import CyberRT.Shm.BlockExclusion
import CyberRT.Shm.Dispatcher
import CyberRT.Transport.ChannelIds
import CyberRT.Io.Notified
import CyberRT.Record.Spliter
import CyberRT.Player.PlayTaskProducer
import CyberRT.Player.Selection
import CyberRT.Record.ViewOrder
import CyberRT.Player.Playback
import CyberRT.Player.PlayOrder
import CyberRT.Player.Loops
import CyberRT.Message.HeaderContent
import CyberRT.Record.Consecutive
import CyberRT.Base.Signal
import CyberRT.Transport.Connections
import CyberRT.Transport.ListenerHistory
import CyberRT.Record.ForwardReading
import CyberRT.Record.WindowGrowth
import CyberRT.Record.FlushThread
import CyberRT.Record.FailedSplit
import CyberRT.Record.Stored
import CyberRT.Timer.Periods
import CyberRT.Shm.ReadCalls
import CyberRT.Shm.SystemCalls
import CyberRT.Scheduler.PinThread
import CyberRT.Discovery.Directions
import CyberRT.Base.HashTable
import CyberRT.Common.Registration
import CyberRT.Transport.MessageInfo
import CyberRT.Execution.Tally
import CyberRT.Base.AtomicRWLock
import CyberRT.Base.ReentrantRWLock
import CyberRT.Base.ConcurrentObjectPool
import CyberRT.Base.UnboundedQueue
import CyberRT.Base.NodeOwners
import CyberRT.ClassLoader.Libraries
import CyberRT.Execution.Monitor
import CyberRT.Scheduler.WaitQueue
import CyberRT.Scheduler.WakeUps
import CyberRT.Services.Worker
import CyberRT.Services.Destroy
import CyberRT.Services.RequestOrder
import CyberRT.ClassLoader.LiveObjects
import CyberRT.Record.Recorder
import CyberRT.Record.Registered
import CyberRT.Record.Recorded
import CyberRT.Discovery.TopologyManager
import CyberRT.Discovery.Participants
import CyberRT.Logger.LogFile
import CyberRT.Logger.LogLimits
import CyberRT.Logger.FullDisk
import CyberRT.Logger.LoggingProcess
import CyberRT.Services.Calls
import CyberRT.Parameter.ParameterServer
import CyberRT.Parameter.Linearizable
import CyberRT.Mainboard.ModuleController
import CyberRT.ClassLoader.Creations
import CyberRT.Mainboard.Shutdown
import CyberRT.Startup.Process
import CyberRT.Startup.Lifecycle
import CyberRT.Message.ProtobufFactory
import CyberRT.Message.Descriptors
import CyberRT.Time.Rate
import CyberRT.Croutine.DataPath
