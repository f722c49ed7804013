import RealtimePlatform.Proof.Framing
import RealtimePlatform.Proof.SessionLoop
import RealtimePlatform.Proof.SessionIsolation
import RealtimePlatform.Proof.PresenceBalance
import RealtimePlatform.Proof.Confidentiality
import RealtimePlatform.Proof.RateLimits
import RealtimePlatform.Proof.Noninterference
import RealtimePlatform.Proof.ClusterRouting
import RealtimePlatform.Proof.HistoryOnce
import RealtimePlatform.Proof.KeyRevocation
import RealtimePlatform.Proof.Fanout
import RealtimePlatform.Proof.ExactChannels
import RealtimePlatform.Proof.WildcardSubscriptions
import RealtimePlatform.Proof.WildcardOrder
import RealtimePlatform.Proof.PresenceAgreement
import RealtimePlatform.Proof.RelayLag
import RealtimePlatform.Proof.Resubscription
import RealtimePlatform.Proof.Reassembly
import RealtimePlatform.Proof.ChunkIntegrity
import RealtimePlatform.Proof.ChunkTransparency
import RealtimePlatform.Backend.PushSide
import RealtimePlatform.Backend.PushSubscriptions
import RealtimePlatform.Proof.KeyAgreement
import RealtimePlatform.Proof.FailedRequests
import RealtimePlatform.Proof.PushIsolation
import RealtimePlatform.Proof.PushPrivacy
import RealtimePlatform.Proof.HandlerMatching
import RealtimePlatform.Proof.RelayCount
import RealtimePlatform.Proof.CodecRoundTrip
import RealtimePlatform.Proof.DecoderAgreement
import RealtimePlatform.Proof.Transports
import RealtimePlatform.Proof.ChunkAdmission
import RealtimePlatform.Proof.RustReplay
import RealtimePlatform.Proof.AndroidAuth
import RealtimePlatform.Proof.AndroidStops
import RealtimePlatform.Proof.PythonOrder
import RealtimePlatform.Proof.QueuedSends
import RealtimePlatform.Proof.OneSocket
import RealtimePlatform.Proof.Departures
import RealtimePlatform.Proof.SweepExpiry
import RealtimePlatform.Proof.CatchUp
import RealtimePlatform.Proof.DurableReplay
import RealtimePlatform.Proof.PresenceChannels
import RealtimePlatform.Proof.EntryPoints
import RealtimePlatform.Proof.IssuedTokens
import RealtimePlatform.Proof.EncoderAgreement
import RealtimePlatform.Proof.HandlerDelivery
import RealtimePlatform.Proof.ChannelNames
import RealtimePlatform.Proof.HistoryRing
import RealtimePlatform.Proof.ReplayCutoff
import RealtimePlatform.Proof.TokenExpiry
import RealtimePlatform.Proof.BucketBound
import RealtimePlatform.Proof.SessionQuota
import RealtimePlatform.Proof.LimitChanges
import RealtimePlatform.Proof.SessionBuckets
import RealtimePlatform.Proof.ChannelList
import RealtimePlatform.Backend.Pruning
import RealtimePlatform.Proof.SilentChannels
import RealtimePlatform.Library.ShiftRegister
import RealtimePlatform.Proof.ErrorDetection
import RealtimePlatform.Backend.LiveRelays
import RealtimePlatform.Proof.Reconnection
import RealtimePlatform.Proof.PatternMatching
import RealtimePlatform.Proof.TemplateRendering
import RealtimePlatform.Proof.ChunkFrames
import RealtimePlatform.Proof.UnsubscribeLaw
import RealtimePlatform.Proof.Backoff
import RealtimePlatform.Proof.PythonReconnects
import RealtimePlatform.Proof.AndroidListeners
import RealtimePlatform.Proof.JsonAcceptance
import RealtimePlatform.Proof.JsonRoundTrip
import RealtimePlatform.Proof.SizeGuard
import RealtimePlatform.Proof.PushAccounts
import RealtimePlatform.Proof.ClusterDelivery
import RealtimePlatform.Proof.ConnectionGauges
import RealtimePlatform.Proof.Leftovers
import RealtimePlatform.Proof.WireOrder
import RealtimePlatform.Library.MessageEncryption
import RealtimePlatform.Backend.WebPush
import RealtimePlatform.Sdk.Notifications
import RealtimePlatform.Proof.WebPushDelivery
import RealtimePlatform.Sdk.RustProtocol
import RealtimePlatform.Sdk.RustReceivers
import RealtimePlatform.Proof.RustCodec
import RealtimePlatform.Proof.RustReceivers
import RealtimePlatform.Library.Timestamp
import RealtimePlatform.Backend.NotificationLog
import RealtimePlatform.Proof.NotificationBell
import RealtimePlatform.Library.Exposition
import RealtimePlatform.Backend.Overview
import RealtimePlatform.Proof.TenantOverview
import RealtimePlatform.Sdk.WordPressSession
import RealtimePlatform.Proof.PageClients
