import LibNice.Foundation.Memory
import LibNice.Foundation.HostOrder
import LibNice.Foundation.Tlv
import LibNice.Foundation.Ledger
import LibNice.Foundation.Run
import LibNice.Foundation.Classes
import LibNice.Foundation.Decimal
import LibNice.Foundation.Tokens
import LibNice.Foundation.Cells
import LibNice.Foundation.Crc
import LibNice.Foundation.Exchange
import LibNice.Stun.Types
import LibNice.Stun.Message
import LibNice.Stun.Framing
import LibNice.Stun.Vectored
import LibNice.Stun.Integrity
import LibNice.Stun.Agent
import LibNice.Stun.Attributes
import LibNice.Stun.Codec
import LibNice.Stun.Transactions
import LibNice.Stun.Validation
import LibNice.Stun.Authentication
import LibNice.Stun.Fingerprint
import LibNice.Stun.Checksum
import LibNice.Stun.Trailer
import LibNice.Stun.Finish
import LibNice.Stun.Software
import LibNice.Stun.RoundTrip
import LibNice.Stun.Reply
import LibNice.Stun.Appending
import LibNice.Foundation.Frames
import LibNice.Foundation.Loop
import LibNice.Foundation.Ring
import LibNice.Foundation.RingQueue
import LibNice.Foundation.Sequence
import LibNice.PseudoTcp.Types
import LibNice.PseudoTcp.Comparison
import LibNice.PseudoTcp.Fifo
import LibNice.PseudoTcp.Output
import LibNice.PseudoTcp.Input
import LibNice.PseudoTcp.Socket
import LibNice.Foundation.Post
import LibNice.PseudoTcp.Sending
import LibNice.PseudoTcp.Calls
import LibNice.PseudoTcp.States
import LibNice.PseudoTcp.SendQueue
import LibNice.PseudoTcp.Window
import LibNice.PseudoTcp.ReceiveWindow
import LibNice.PseudoTcp.Acknowledging
import LibNice.PseudoTcp.Reassembly
import LibNice.PseudoTcp.ReceivedStream
import LibNice.PseudoTcp.SentStream
import LibNice.PseudoTcp.StreamCalls
import LibNice.PseudoTcp.StreamIntegrity
import LibNice.PseudoTcp.ReceiveBuffer
import LibNice.PseudoTcp.Peer
import LibNice.PseudoTcp.FastRecovery
import LibNice.PseudoTcp.FifoRefinement
import LibNice.PseudoTcp.Resizing
import LibNice.PseudoTcp.ConnectOptions
import LibNice.PseudoTcp.NotifyMessage
import LibNice.Socket.TcpBsd
import LibNice.Socket.ByteStream
import LibNice.Socket.TcpRecv
import LibNice.Socket.Http
import LibNice.Socket.HttpRing
import LibNice.Socket.Gated
import LibNice.Socket.HttpTunnel
import LibNice.Socket.Socks5
import LibNice.Socket.PseudoSsl
import LibNice.Socket.UdpTurnOverTcp
import LibNice.Socket.TurnTcpBuffer
import LibNice.Agent.SendMessages
import LibNice.Agent.RecvMessage
import LibNice.Agent.PendingIo
import LibNice.Agent.PseudoTcpSend
import LibNice.Agent.PseudoTcpRecv
import LibNice.Agent.TcpClock
import LibNice.Agent.Sdp
import LibNice.Agent.SdpRoundTrip
import LibNice.Agent.QueuedTcpPackets
import LibNice.Ice.Types
import LibNice.Ice.Priority
import LibNice.Ice.CheckList
import LibNice.Ice.Unfreezing
import LibNice.Ice.Usage
import LibNice.Ice.Reply
import LibNice.Ice.ReplyRoundTrip
import LibNice.Ice.UnknownAttributes
import LibNice.Ice.RoleConflict
import LibNice.Ice.Username
import LibNice.Ice.ConnCheckSend
import LibNice.Ice.Selection
import LibNice.Ice.Nomination
import LibNice.Ice.CheckPairs
import LibNice.Ice.InboundCheck
import LibNice.Ice.RefusedCheck
import LibNice.Ice.FailedComponents
import LibNice.Ice.CheckLimit
import LibNice.Ice.CandidateLists
import LibNice.Ice.LocalFoundations
import LibNice.Ice.RemoteFoundations
import LibNice.Ice.CheckResponse
import LibNice.Ice.NominatedPairs
import LibNice.Ice.Concluding
import LibNice.Ice.Timer
import LibNice.Ice.TimerSchedule
import LibNice.Ice.TurnRefresh
import LibNice.Socket.UdpTurn.Types
import LibNice.Socket.UdpTurn.Requests
import LibNice.Socket.UdpTurn.Socket
import LibNice.Socket.UdpTurn.Bindings
import LibNice.Socket.UdpTurn.BindingRuns
import LibNice.Socket.UdpTurn.Channels
import LibNice.Socket.UdpTurn.SentIds
import LibNice.Socket.UdpTurn.Permissions
import LibNice.Socket.UdpTurn.PermissionRuns
import LibNice.Socket.UdpTurn.Packet
import LibNice.Socket.UdpTurn.MsSequence
import LibNice.Socket.UdpTurn.Attribution
import LibNice.Socket.UdpTurn.ScheduleTick
import LibNice.Ice.Moves
import LibNice.Ice.AgentEvents
import LibNice.Ice.AgentRuns
import LibNice.Ice.RoleAgreement
import LibNice.Ice.ListOrder
