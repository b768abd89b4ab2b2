import QuicRtc.Lib.BigEndian
import QuicRtc.Lib.Transition
import QuicRtc.Message
import QuicRtc.DataChannel.Defs
import QuicRtc.DataChannel.OpenMessage
import QuicRtc.Queue
import QuicRtc.SctpTransport.Defs
import QuicRtc.SctpTransport.Spec
import QuicRtc.SctpTransport.Order
import QuicRtc.DataChannel.OpenFirst
import QuicRtc.Description
import QuicRtc.PeerConnection.Defs
import QuicRtc.PeerConnection.OneOpen
import QuicRtc.PeerConnection.StreamAgreement
import QuicRtc.SctpTransport.BufferedAmount
import QuicRtc.Signaling.Defs
import QuicRtc.Signaling.Jsep
import QuicRtc.Signaling.Roles
import QuicRtc.Callbacks.Defs
import QuicRtc.Callbacks.Invariant
import QuicRtc.Callbacks.Protocol
import QuicRtc.Closing.Defs
import QuicRtc.Closing.Final
import QuicRtc.Lib.Reader
import QuicRtc.LocalDescription.Defs
import QuicRtc.LocalDescription.MLines
import QuicRtc.Processor
import QuicRtc.QuicDataChannel
import QuicRtc.QuicTransport.Connection
import QuicRtc.QuicTransport.Streams
import QuicRtc.TaskScheduler
import QuicRtc.WsTransport.Codec
import QuicRtc.Http
import QuicRtc.Lib.Consumer
import QuicRtc.Rtcp.Defs
import QuicRtc.Rtcp.Dispatch
import QuicRtc.Rtp.Defs
import QuicRtc.Rtp.Fragments
import QuicRtc.Rtp.H264
import QuicRtc.Rtp.H265
import QuicRtc.Rtp.NackResponder
import QuicRtc.WsHandshake.Agreement
import QuicRtc.WsTransport.Chunking
import QuicRtc.Lib.Interleaving
import QuicRtc.TcpTransport.ByteStream
import QuicRtc.TcpTransport.Poll
import QuicRtc.WebSocket.Closing
import QuicRtc.CApi.Defs
import QuicRtc.CApi.HandleTable
import QuicRtc.GlobalInit
import QuicRtc.Lib.Records
import QuicRtc.PacingHandler
import QuicRtc.Rtcp.Nack
import QuicRtc.SctpTransport.Blocking
import QuicRtc.SctpTransport.Chunks
import QuicRtc.SctpTransport.Isolation
import QuicRtc.WebSocket.Lifecycle
import QuicRtc.Lib.OrderedMap
import QuicRtc.Lib.Printed
import QuicRtc.Sdp.Candidate
import QuicRtc.Sdp.Defs
import QuicRtc.Sdp.Description
import QuicRtc.Sdp.Media
import QuicRtc.Sdp.RoundTrip
import QuicRtc.CApi.ReceiveMessage
import QuicRtc.Callbacks.Stored
import QuicRtc.DataChannel.Reliability
import QuicRtc.LocalDescription.TrackTable
import QuicRtc.MediaInterceptor
import QuicRtc.PeerConnection.Assignment
import QuicRtc.Signaling.Atomic
import QuicRtc.Signaling.LocalRollback
import QuicRtc.HttpProxyTransport
import QuicRtc.QuicDataChannel.OpenMessage
import QuicRtc.Rtp.FragmentRange
import QuicRtc.TcpTransport.Sockets
import QuicRtc.WebSocket.Reopening
import QuicRtc.WsTransport.FrameLength
import QuicRtc.WsTransport.Reassembly
import QuicRtc.Rtp.Grouping
import QuicRtc.Rtp.SplitMessage
import QuicRtc.Rtcp.Feedback
import QuicRtc.Rtcp.MissingPackets
import QuicRtc.Rtcp.Remb
import QuicRtc.Rtp.Extraction
import QuicRtc.Rtp.HeaderExtensions
import QuicRtc.Rtp.Padding
import QuicRtc.Lib.Leb128
import QuicRtc.Rtp.Av1Payloads
import QuicRtc.Rtp.TemporalUnit
import QuicRtc.Rtcp.ReportBlock
import QuicRtc.Rtcp.SenderCounters
import QuicRtc.Rtp.Rtx
import QuicRtc.Sdp.Fingerprint
import QuicRtc.Sdp.MediaText
import QuicRtc.Sdp.Regenerate
import QuicRtc.Lib.FirstMax
import QuicRtc.Sdp.DefaultCandidate
import QuicRtc.Utils.Base64
import QuicRtc.Rtcp.ChunkSize
import QuicRtc.SctpTransport.EndToEnd
import QuicRtc.WsTransport.EndToEnd
import QuicRtc.Rtcp.LossRecovery
import QuicRtc.ThreadPool
import QuicRtc.Lib.LinkedChain
import QuicRtc.MediaHandler
import QuicRtc.Rtcp.ReceivingSession
import QuicRtc.Rtp.Pipeline
import QuicRtc.Negotiation.Settling
import QuicRtc.Srtp.Delivery
