import AdaptiveAdvertisement.Library.Machine
import AdaptiveAdvertisement.Library.Dict
import AdaptiveAdvertisement.Library.RecentIds
import AdaptiveAdvertisement.Library.SlidingWindow
import AdaptiveAdvertisement.Library.Json
import AdaptiveAdvertisement.Library.Number
import AdaptiveAdvertisement.Library.WeightedChoice
import AdaptiveAdvertisement.Library.JsonSchema
import AdaptiveAdvertisement.Library.Inbox
import AdaptiveAdvertisement.Library.ValidJson
import AdaptiveAdvertisement.Library.SameJson
import AdaptiveAdvertisement.Library.FileNames
import AdaptiveAdvertisement.Library.LexicalPath
import AdaptiveAdvertisement.Library.Transit
import AdaptiveAdvertisement.Library.Backoff
import AdaptiveAdvertisement.Library.EventLog
import AdaptiveAdvertisement.Contracts
import AdaptiveAdvertisement.ContractValues
import AdaptiveAdvertisement.InputCv.Observation
import AdaptiveAdvertisement.InputCv.ObservationShape
import AdaptiveAdvertisement.InputCv.CameraMailbox
import AdaptiveAdvertisement.InputCv.ReadLoop
import AdaptiveAdvertisement.InputCv.CameraSupervision
import AdaptiveAdvertisement.InputCv.Noninterference
import AdaptiveAdvertisement.AudienceState.ObservationStore
import AdaptiveAdvertisement.AudienceState.ObservationConsumer
import AdaptiveAdvertisement.AudienceState.WindowHistory
import AdaptiveAdvertisement.AudienceState.WindowQueries
import AdaptiveAdvertisement.AudienceState.DemographicsRelease
import AdaptiveAdvertisement.AudienceState.ConfidenceGates
import AdaptiveAdvertisement.AudienceState.DeliveryOrder
import AdaptiveAdvertisement.AudienceState.SignalPublisher
import AdaptiveAdvertisement.AudienceState.SignalValidity
import AdaptiveAdvertisement.AudienceState.WithheldSignal
import AdaptiveAdvertisement.DecisionOptimizer.SignalConsumer
import AdaptiveAdvertisement.DecisionOptimizer.Policy
import AdaptiveAdvertisement.DecisionOptimizer.DemographicsGate
import AdaptiveAdvertisement.DecisionOptimizer.TopTier
import AdaptiveAdvertisement.DecisionOptimizer.Evaluation
import AdaptiveAdvertisement.DecisionOptimizer.ConditionLanguage
import AdaptiveAdvertisement.DecisionOptimizer.PlayerGateway
import AdaptiveAdvertisement.DecisionOptimizer.DecisionLoop
import AdaptiveAdvertisement.DecisionOptimizer.FreezeGate
import AdaptiveAdvertisement.DecisionOptimizer.DeliveryOutcome
import AdaptiveAdvertisement.Player.State
import AdaptiveAdvertisement.Player.StateInvariant
import AdaptiveAdvertisement.Player.PlayerEvents
import AdaptiveAdvertisement.Player.DwellCooldown
import AdaptiveAdvertisement.Player.OwnCooldown
import AdaptiveAdvertisement.Player.Health
import AdaptiveAdvertisement.Player.ManifestStore
import AdaptiveAdvertisement.Player.CommandHandler
import AdaptiveAdvertisement.Player.CommandTotality
import AdaptiveAdvertisement.Player.CommandOrder
import AdaptiveAdvertisement.Player.ControlSession
import AdaptiveAdvertisement.Player.SessionRefinement
import AdaptiveAdvertisement.Player.PlayEventPublisher
import AdaptiveAdvertisement.Player.Renderer
import AdaptiveAdvertisement.Player.AssetPath
import AdaptiveAdvertisement.Player.ManifestReload
import AdaptiveAdvertisement.Player.NeverBlank
import AdaptiveAdvertisement.Player.FallbackSelection
import AdaptiveAdvertisement.Player.FallbackPriority
import AdaptiveAdvertisement.Player.FallbackHotSwap
import AdaptiveAdvertisement.Player.RenderOrder
import AdaptiveAdvertisement.Player.RenderAgreement
import AdaptiveAdvertisement.Player.ExpiredContent
import AdaptiveAdvertisement.Creative.ManifestStore
import AdaptiveAdvertisement.Creative.Service
import AdaptiveAdvertisement.Supervisor.SafeModeRelay
import AdaptiveAdvertisement.Supervisor.RestartLadder
import AdaptiveAdvertisement.Supervisor.HealthLoop
import AdaptiveAdvertisement.Supervisor.RestartBounds
import AdaptiveAdvertisement.Supervisor.RestartProgress
import AdaptiveAdvertisement.Dashboard.SafeModeIntent
import AdaptiveAdvertisement.Dashboard.Manifest
import AdaptiveAdvertisement.Dashboard.ManifestRouter
import AdaptiveAdvertisement.Dashboard.FallbackAssets
import AdaptiveAdvertisement.Dashboard.LifecycleRequests
import AdaptiveAdvertisement.Dashboard.ConcurrentRequests
import AdaptiveAdvertisement.Dashboard.FailingRequests
import AdaptiveAdvertisement.Dashboard.AuditReplay
import AdaptiveAdvertisement.Dashboard.CampaignRouter
import AdaptiveAdvertisement.Dashboard.CampaignOrder
import AdaptiveAdvertisement.Dashboard.CampaignAnalytics
import AdaptiveAdvertisement.Dashboard.ArchivedCampaigns
import AdaptiveAdvertisement.Dashboard.AuditTrail
import AdaptiveAdvertisement.Dashboard.RuleGenerator
import AdaptiveAdvertisement.Dashboard.PairRules
import AdaptiveAdvertisement.Dashboard.RuleSync
import AdaptiveAdvertisement.Dashboard.AssetRouter
import AdaptiveAdvertisement.Dashboard.AudienceSink
import AdaptiveAdvertisement.Dashboard.SnapshotParser
import AdaptiveAdvertisement.Dashboard.AudienceSummary
import AdaptiveAdvertisement.Dashboard.UptimeSummary
import AdaptiveAdvertisement.Dashboard.Pagination
import AdaptiveAdvertisement.Dashboard.PlayEventSink
import AdaptiveAdvertisement.Dashboard.LiveStatus
import AdaptiveAdvertisement.System.SafeModePath
import AdaptiveAdvertisement.System.ApprovalPath
import AdaptiveAdvertisement.System.CreativePath
import AdaptiveAdvertisement.System.ObservationPath
import AdaptiveAdvertisement.System.SignalPath
import AdaptiveAdvertisement.System.SignalSnapshot
import AdaptiveAdvertisement.System.CommandChannel
import AdaptiveAdvertisement.System.Delivery
import AdaptiveAdvertisement.System.FreshCommands
import AdaptiveAdvertisement.System.LostActivation
import AdaptiveAdvertisement.System.CommandWire
import AdaptiveAdvertisement.System.WireDelivery
import AdaptiveAdvertisement.System.GeneratedPolicy
import AdaptiveAdvertisement.System.ImpressionLog
import AdaptiveAdvertisement.System.LivePlayer
import AdaptiveAdvertisement.System.CampaignImpressions
import AdaptiveAdvertisement.System.RulePreview
import AdaptiveAdvertisement.System.PolicyDistribution
import AdaptiveAdvertisement.System.SanctionedImpressions
import AdaptiveAdvertisement.System.WithheldDemographics
import AdaptiveAdvertisement.System.AudienceAnalytics
import AdaptiveAdvertisement.System.PairMatching
import AdaptiveAdvertisement.System.SelectableManifests
import AdaptiveAdvertisement.System.FallbackChoice
import AdaptiveAdvertisement.System.Servability
import AdaptiveAdvertisement.System.LiveView
import AdaptiveAdvertisement.System.Reconnection
