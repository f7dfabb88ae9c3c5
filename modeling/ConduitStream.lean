import ConduitStream.Foundations.SerialNumber
import ConduitStream.Foundations.Trace
import ConduitStream.Foundations.Framing
import ConduitStream.Foundations.RelyGuarantee
import ConduitStream.Foundations.CharArray
import ConduitStream.Foundations.Spelling
import ConduitStream.Foundations.FloatValue
import ConduitStream.Reorder.Refinement
import ConduitStream.Reorder.Gap
import ConduitStream.RtpReceive.BoundedReordering
import ConduitStream.RtpReceive.LossBurst
import ConduitStream.RtpReceive.BoundedHold
import ConduitStream.RtpReceive.ResendCompletes
import ConduitStream.RtpReceive.FrameLength
import ConduitStream.RtpReceive.FmtpList
import ConduitStream.RtpReceive.AlacFrame
import ConduitStream.RtpReceive.StreamTime
import ConduitStream.RtpReceive.Recovered
import ConduitStream.AudioRing.Spsc
import ConduitStream.AudioRing.BoundedFifo
import ConduitStream.Playback.PlaybackTask
import ConduitStream.Playback.Conservation
import ConduitStream.Playback.PadFrame
import ConduitStream.Playback.Gain
import ConduitStream.Playback.Volume
import ConduitStream.Rtsp.Parser
import ConduitStream.Rtsp.Segmentation
import ConduitStream.Rtsp.BodyFraming
import ConduitStream.Rtsp.RequestText
import ConduitStream.Rtsp.HeaderScan
import ConduitStream.Rtsp.OversizeDrain
import ConduitStream.Rtsp.SetParameter
import ConduitStream.Rtsp.DmapForest
import ConduitStream.Rtsp.SdpLines
import ConduitStream.Rtsp.Base64RoundTrip
import ConduitStream.Session.Resources
import ConduitStream.Session.Announce
import ConduitStream.Session.RecordAnswer
import ConduitStream.Session.SenderPorts
import ConduitStream.Session.ControlDatagrams
import ConduitStream.System.Boot
import ConduitStream.System.SaveWifi
import ConduitStream.System.SetupButton
import ConduitStream.System.SystemConfig
import ConduitStream.Network.WifiStation
import ConduitStream.Network.CaptiveDns
import ConduitStream.Network.Portal
import ConduitStream.Network.SaveForm
import ConduitStream.Network.UrlDecode
import ConduitStream.Foundations.BitGroups
import ConduitStream.Reorder.WindowSize
import ConduitStream.Rtsp.TransportParameters
import ConduitStream.Rtsp.Progress
import ConduitStream.Foundations.BoundedText
import ConduitStream.Rtsp.Response
import ConduitStream.Foundations.ProgramResults
import ConduitStream.Session.Answers
import ConduitStream.Alac.BitInput
import ConduitStream.Alac.RiceDecode
import ConduitStream.Alac.RiceCode
import ConduitStream.Foundations.AdaptivePrediction
import ConduitStream.Alac.Predictor
import ConduitStream.Alac.Frame
import ConduitStream.Alac.FrameCode
import ConduitStream.RtpReceive.FeedPcm
import ConduitStream.RtpReceive.BuiltDecoder
import ConduitStream.RtpReceive.PcmStream
import ConduitStream.RtpReceive.FeedCount
import ConduitStream.Session.Connection
import ConduitStream.Rtsp.NowPlaying
import ConduitStream.RtpReceive.ResendRequests
import ConduitStream.Playback.Heard
import ConduitStream.Network.Reconnect
