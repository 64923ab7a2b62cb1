import MpWebRtc.Bits.BitCodec
import MpWebRtc.Fec.RowRecovery
import MpWebRtc.Ice.Pruning
import MpWebRtc.Ice.Ranking
import MpWebRtc.Packetizer.PayloadSplit
import MpWebRtc.Receiver.DecodedWindow
import MpWebRtc.Receiver.FeedbackCompleteness
import MpWebRtc.Receiver.FrameAssembly
import MpWebRtc.Receiver.FrameRuns
import MpWebRtc.Receiver.JitterBounds
import MpWebRtc.Receiver.NackLaw
import MpWebRtc.Receiver.RemoteFrameRate
import MpWebRtc.Receiver.ReportIntervals
import MpWebRtc.Receiver.ReportRotation
import MpWebRtc.Receiver.SinkDelivery
import MpWebRtc.Receiver.Vp9References
import MpWebRtc.Recovery
import MpWebRtc.Rtcp.ArrivalTimes
import MpWebRtc.Rtcp.BoundingEnvelope
import MpWebRtc.Rtcp.Emission
import MpWebRtc.Rtcp.PathAttribution
import MpWebRtc.Rtcp.PathRoundTrips
import MpWebRtc.Rtcp.Remb
import MpWebRtc.Rtcp.Sdes
import MpWebRtc.Rtcp.StatusSequence
import MpWebRtc.Rtcp.VolatileFlags
import MpWebRtc.Rtp.Removing
import MpWebRtc.Rtp.Zeroing
import MpWebRtc.Sender.Culling
import MpWebRtc.Sender.DemuxerDelivery
import MpWebRtc.Sender.FecBatches
import MpWebRtc.Sender.FeedbackMatching
import MpWebRtc.Sender.LossReports
import MpWebRtc.Sender.ModuleRegistry
import MpWebRtc.Sender.OutstandingData
import MpWebRtc.Sender.PacerFastPath
import MpWebRtc.Sender.PacingTermination
import MpWebRtc.Sender.PaddingSet
import MpWebRtc.Sender.PathRatio
import MpWebRtc.Sender.PathWindows
import MpWebRtc.Sender.PostedSafety
import MpWebRtc.Sender.SentPackets
import MpWebRtc.Sender.SteadyAllocation
import MpWebRtc.Signals
