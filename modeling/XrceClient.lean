import XrceClient.Base.SerialNumber
import XrceClient.Base.ByteMemory
import XrceClient.Base.ByteRing
import XrceClient.Base.ByteStuffing
import XrceClient.Stream.SeqNum
import XrceClient.Stream.MicroCdr
import XrceClient.Stream.ReliableStream
import XrceClient.Stream.Submessage
import XrceClient.Stream.OutputReliable
import XrceClient.Stream.OutputWindow
import XrceClient.Stream.OutputWrite
import XrceClient.Stream.OutputRuns
import XrceClient.Stream.InputReliable
import XrceClient.Base.Program
import XrceClient.Stream.StreamId
import XrceClient.Session.Reading
import XrceClient.Stream.Reception
import XrceClient.Session.Headers
import XrceClient.Session.StreamStorage
import XrceClient.Session.ControlWriting
import XrceClient.Session.Session
import XrceClient.Session.ControlMessages
import XrceClient.Session.UnknownStreams
import XrceClient.Stream.InputWindow
import XrceClient.Stream.Delivery
import XrceClient.Session.EndToEnd
import XrceClient.Session.SlotReading
import XrceClient.Session.FramedReading
import XrceClient.Session.SessionSlots
import XrceClient.Session.Effects
import XrceClient.Transport.Framing
import XrceClient.Transport.FramingWrite
import XrceClient.Transport.FramingRing
import XrceClient.Transport.FramingRead
import XrceClient.Transport.FramingRoundTrip
import XrceClient.Session.Deletion
import XrceClient.Base.Loops
import XrceClient.Session.Flushing
import XrceClient.Session.ConfirmedDelivery
import XrceClient.Session.BlockReading
import XrceClient.Session.Payloads
import XrceClient.Session.Application
import XrceClient.Session.Truncation
import XrceClient.Session.DataReading
import XrceClient.Session.Dispatch
import XrceClient.Session.FragmentReading
import XrceClient.Session.FragmentExtent
import XrceClient.Session.FramedMessages
import XrceClient.Session.ControlParsing
import XrceClient.Base.LinkedList
import XrceClient.SharedMemory.Matching
import XrceClient.SharedMemory.Handling
import XrceClient.SharedMemory.Pool
import XrceClient.SharedMemory.Queues
import XrceClient.SharedMemory.DeliveryOrder
import XrceClient.SharedMemory.SessionDeletion
import XrceClient.Session.EntityCreation
import XrceClient.SharedMemory.UniqueEntities
import XrceClient.SharedMemory.MatchingSoundness
import XrceClient.Session.ChainReading
import XrceClient.SharedMemory.Replies
import XrceClient.SharedMemory.PathAgreement
import XrceClient.SharedMemory.SampleTracking
import XrceClient.SharedMemory.ReplyRouting
import XrceClient.Base.Transducer
import XrceClient.Transport.Receiver
import XrceClient.Transport.FramingResync
import XrceClient.Transport.FramingStreams
import XrceClient.Session.Representations
import XrceClient.Session.RepresentationRoundTrip
import XrceClient.Session.Heartbeats
import XrceClient.Stream.CancelledSend
import XrceClient.Stream.ReceptionFrame
import XrceClient.Transport.TcpReceive
import XrceClient.Transport.TcpLink
import XrceClient.Session.StatusLists
import XrceClient.Base.Fuel
import XrceClient.Session.Steadiness
import XrceClient.Session.Deadlines
import XrceClient.Session.DeadlinesKept
import XrceClient.Stream.ReceivedMessages
import XrceClient.Stream.AcknackContent
import XrceClient.Session.ContinuousWriting
import XrceClient.Session.ContinuousBlocks
import XrceClient.Session.ContinuousFragments
import XrceClient.Base.Outbox
import XrceClient.Session.Packing
import XrceClient.Session.PackedWrites
import XrceClient.Session.PackedStreams
import XrceClient.Session.PackedMessages
import XrceClient.Session.TimeSync
import XrceClient.Transport.TcpBounds
import XrceClient.Base.ShiftRegister
import XrceClient.Discovery.InfoMessages
import XrceClient.Transport.FrameChecksum
import XrceClient.Discovery.Listening
import XrceClient.Session.CutReading
import XrceClient.Session.BinaryObjects
import XrceClient.Session.BinaryRoundTrip
import XrceClient.Session.SampleFormats
import XrceClient.Session.SampleRoundTrip
import XrceClient.Session.FilledSequences
import XrceClient.Session.SequenceBounds
import XrceClient.Session.SequenceCapacities
import XrceClient.SharedMemory.XmlPlaces
import XrceClient.SharedMemory.XmlBounds
import XrceClient.Transport.FramingBuffers
import XrceClient.Base.Spending
import XrceClient.Session.ListeningProgress
import XrceClient.Base.Locking
import XrceClient.Session.Locks
import XrceClient.Session.LocksAlone
import XrceClient.Session.LockDiscipline
import XrceClient.Session.LockedRuns
import XrceClient.Base.LockOrder
import XrceClient.Session.DeadlockFreedom
import XrceClient.Stream.Reassembly
import XrceClient.Stream.ReassemblyEnds
import XrceClient.Session.FragmentedLink
import XrceClient.Session.LinkRecovery
import XrceClient.Session.WrittenMessages
import XrceClient.Session.BestEffortLink
import XrceClient.Session.Calls
import XrceClient.Session.SessionRuns
import XrceClient.Session.KeptMessages
import XrceClient.Session.KeptByReading
import XrceClient.Session.ReadingToEnd
import XrceClient.Session.Login
import XrceClient.Session.FieldWriting
import XrceClient.Session.Requests
import XrceClient.Session.GrantedBuffers
import XrceClient.Session.RequestPayloads
import XrceClient.Session.RequestRuns
import XrceClient.Session.RequestFidelity
