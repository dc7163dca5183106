import SherwoodMonitor.Library.PyUnicode
import SherwoodMonitor.Library.PyText
import SherwoodMonitor.Library.PyNumber
import SherwoodMonitor.Library.PyJson
import SherwoodMonitor.Library.Lookup
import SherwoodMonitor.Models
import SherwoodMonitor.Units
import SherwoodMonitor.Rules
import SherwoodMonitor.TxBuilder
import SherwoodMonitor.Library.AtomicStore
import SherwoodMonitor.Library.Slots
import SherwoodMonitor.Library.Passes
import SherwoodMonitor.Service
import SherwoodMonitor.ChainCard
import SherwoodMonitor.Calls
import SherwoodMonitor.Effects
import SherwoodMonitor.CallRuns
import SherwoodMonitor.OpenSlots
import SherwoodMonitor.TopicClaims
import SherwoodMonitor.StatusMoves
import SherwoodMonitor.StatusPaths
import SherwoodMonitor.Cooldown
import SherwoodMonitor.AgentAuthority
import SherwoodMonitor.AgentRegistry
import SherwoodMonitor.ProposalIds
import SherwoodMonitor.FundWrites
import SherwoodMonitor.IdentityLock
import SherwoodMonitor.DisplayedIds
import SherwoodMonitor.Settlement
import SherwoodMonitor.FundDisk
import SherwoodMonitor.Authz
import SherwoodMonitor.Tools
import SherwoodMonitor.DraftGuard
import SherwoodMonitor.CardPass
import SherwoodMonitor.CardIdempotence
import SherwoodMonitor.StateRoundTrip
import SherwoodMonitor.Library.LockedFile
import SherwoodMonitor.FundStore
import SherwoodMonitor.HostAuthority
import SherwoodMonitor.Library.Separated
import SherwoodMonitor.Links
import SherwoodMonitor.LinkMessages
import SherwoodMonitor.Library.JsonText
import SherwoodMonitor.Approvals
import SherwoodMonitor.PitchText
import SherwoodMonitor.PitchFlow
import SherwoodMonitor.PitchRuns
import SherwoodMonitor.PitchSafety
import SherwoodMonitor.PitchSeen
import SherwoodMonitor.DraftBridge
import SherwoodMonitor.DraftRetry
import SherwoodMonitor.Library.Mailbox
import SherwoodMonitor.ChatContext
import SherwoodMonitor.Library.PyConvert
import SherwoodMonitor.CronTick
import SherwoodMonitor.CronRuns
import SherwoodMonitor.CronOverlap
import SherwoodMonitor.SupervisedChildren
import SherwoodMonitor.SidecarRuns
import SherwoodMonitor.EventStream
import SherwoodMonitor.Library.UrlText
import SherwoodMonitor.LinkUrls
import SherwoodMonitor.LinkRoundTrips
import SherwoodMonitor.PrepareBodies
import SherwoodMonitor.SigningUrl
import SherwoodMonitor.NameSpelling
import SherwoodMonitor.MemberRecords
import SherwoodMonitor.MembershipRequests
import SherwoodMonitor.TallyIntegrity
import SherwoodMonitor.BackToggling
import SherwoodMonitor.ApprovalTargets
import SherwoodMonitor.DraftLimits
import SherwoodMonitor.ChainSync
import SherwoodMonitor.MemberNumbers
import SherwoodMonitor.Library.Grouping
import SherwoodMonitor.Library.Ranking
import SherwoodMonitor.Leaderboard
import SherwoodMonitor.LeaderboardViews
import SherwoodMonitor.PayloadCodecs
import SherwoodMonitor.Library.Recency
import SherwoodMonitor.RouterDedupe
import SherwoodMonitor.CronWindows
import SherwoodMonitor.CardRefresh
import SherwoodMonitor.SidecarReader
import SherwoodMonitor.FramedContext
import SherwoodMonitor.DeliveryPaths
import SherwoodMonitor.DeliveryAgreement
import SherwoodMonitor.Envelope
import SherwoodMonitor.ReplyErrors
import SherwoodMonitor.BondAndVeto
import SherwoodMonitor.Library.Decimals
import SherwoodMonitor.AmountConversion
import SherwoodMonitor.LiveEdits
import SherwoodMonitor.Library.Markup
import SherwoodMonitor.Library.NumberText
import SherwoodMonitor.CardText
import SherwoodMonitor.CardMarkup
import SherwoodMonitor.CardLimits
import SherwoodMonitor.RiskGate
import SherwoodMonitor.EventBlocks
import SherwoodMonitor.ContextBuffer
import SherwoodMonitor.Library.Pacing
import SherwoodMonitor.ReadPacing
import SherwoodMonitor.CardLane
import SherwoodMonitor.ApprovalBinding
import SherwoodMonitor.TapAuthority
import SherwoodMonitor.SidecarPipes
