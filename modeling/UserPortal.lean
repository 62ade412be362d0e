import UserPortal.Interaction.Program
import UserPortal.Interaction.Interleaving
import UserPortal.Framework.Dynamic
import UserPortal.Framework.Utils
import UserPortal.Calendar.Civil
import UserPortal.Framework.OpenAPIRequests
import UserPortal.Framework.MicroServiceNames
import UserPortal.Security.AuthClient
import UserPortal.Security.AuthRuns
import UserPortal.Calendar.Digits
import UserPortal.Calendar.Format
import UserPortal.Framework.DateTime
import UserPortal.Framework.Handler
import UserPortal.Sdk.CallResult
import UserPortal.Sdk.ParentalControl
import UserPortal.ConfigMaker
import UserPortal.RestApi.ConfigRawSnapshot
import UserPortal.Sdk.Gw
import UserPortal.RestApi.ActionHandler
import UserPortal.Sdk.SetConfigStatus
import UserPortal.Sdk.SsidEntries
import UserPortal.Sdk.SetConfigTraces
import UserPortal.Json.Print
import UserPortal.Sdk.MeshRuns
import UserPortal.Calendar.Zone
import UserPortal.Data.Ordered
import UserPortal.RestApi.Schedules
import UserPortal.RestApi.FirewallRules
import UserPortal.RestApi.RuleCommands
import UserPortal.Calendar.Weekly
import UserPortal.RestApi.ScheduleTimes
import UserPortal.RestApi.ActiveRules
import UserPortal.RestApi.ScheduleWindows
import UserPortal.RestApi.ScheduleTransitions
import UserPortal.Sdk.TimedBlocks
import UserPortal.RestApi.ErrorResponse
import UserPortal.RestApi.Mutations
import UserPortal.RestApi.MutationTraces
import UserPortal.RestApi.GatewayRuns
import UserPortal.RestApi.BadSnapshots
import UserPortal.Sdk.ClientAccessDrift
import UserPortal.RestApi.ErrorStatuses
import UserPortal.RestApi.MutationAnswers
import UserPortal.RestApi.BlockedClients
import UserPortal.Framework.RequestVerbs
import UserPortal.RestApi.SubscriberDevices
import UserPortal.Sdk.Provisioning
import UserPortal.RestApi.SubscriberDeviceTraces
import UserPortal.RestApi.GatewayRole
import UserPortal.RestApi.ConcurrentDevices
import UserPortal.RestApi.OwnDevices
import UserPortal.Data.Agree
import UserPortal.RestApi.OwnEquipment
import UserPortal.Security.AuthSteps
import UserPortal.Security.Revocations
import UserPortal.RestApi.MutationEndpoints
import UserPortal.Framework.MicroService
import UserPortal.Framework.ServiceRegistry
import UserPortal.Sdk.Venues
import UserPortal.Sdk.LocationStore
import UserPortal.RestApi.SubscriberLocation
import UserPortal.RestApi.LocationDeletion
import UserPortal.RestApi.OwedLocations
import UserPortal.RestApi.ConcurrentLocations
import UserPortal.Framework.Parameters
import UserPortal.Framework.RequestHandler
import UserPortal.Framework.ApiProxy
import UserPortal.RestApi.DeclaredRoles
import UserPortal.RestApi.ProxyHandlers
import UserPortal.RestApi.ProxiedBodies
import UserPortal.RestApi.RequestLines
import UserPortal.Framework.KafkaManager
import UserPortal.StatsSvr
import UserPortal.Json.Ordered
import UserPortal.ConfigMaker.Sections
import UserPortal.ConfigMaker.Mesh
import UserPortal.ConfigMaker.Gateway
import UserPortal.Sdk.SsidOverrides
import UserPortal.Sdk.Durations
import UserPortal.RestApi.ScheduleResponses
import UserPortal.RestApi.ScheduleRequests
import UserPortal.RestApi.AcceptedSchedules
import UserPortal.RestApi.ForwardedWeekdays
import UserPortal.RestApi.ClientLists
import UserPortal.RestApi.ClientPartition
import UserPortal.Data.Numeral
import UserPortal.Framework.AddressCodecs
import UserPortal.Data.FirstOccurrences
import UserPortal.RestApi.GroupDevicesListV2
import UserPortal.RestApi.ClientTags
import UserPortal.RestApi.ErrorSanitisation
import UserPortal.Data.Assignments
import UserPortal.Framework.Routing
import UserPortal.Data.Windows
import UserPortal.Framework.RateLimiter
import UserPortal.Data.Memory
import UserPortal.Data.Consecutive
import UserPortal.RestObjects.SubObjects
import UserPortal.DeviceStats
import UserPortal.StatsCache
import UserPortal.Framework.JsonFields
import UserPortal.RestObjects.FromJson
import UserPortal.RestObjects.Overwriting
import UserPortal.Storage.SubscriberInfo
import UserPortal.DeviceStatsAccesses
import UserPortal.Data.Words
import UserPortal.Framework.StringTokenizer
import UserPortal.Storage.DefaultSubscriber
import UserPortal.Data.SqlText
import UserPortal.Framework.OrmConditions
import UserPortal.Framework.OrmIterate
import UserPortal.Framework.NumberConversion
import UserPortal.Data.WordBits
import UserPortal.Framework.IPAddress
import UserPortal.Framework.ConfigurationValidator
import UserPortal.Framework.Cidr
import UserPortal.Data.Runs
import UserPortal.Framework.WebSocketClients
import UserPortal.Data.Sextets
import UserPortal.Framework.Base64
import UserPortal.Framework.CompressedData
import UserPortal.Interaction.Broadcast
import UserPortal.Framework.EventBus
import UserPortal.Framework.Discovery
import UserPortal.Framework.DiscoveryRuns
import UserPortal.Interaction.WorkerQueue
import UserPortal.Framework.KafkaProducer
import UserPortal.Framework.KafkaConsumer
import UserPortal.StatsServer
import UserPortal.Framework.OrmStatements
import UserPortal.RestApi.SubscriberTimezone
import UserPortal.RestApi.RuleHandlers
import UserPortal.Interaction.Knowledge
import UserPortal.RestApi.RuleConfinement
import UserPortal.RestApi.StoredSchedules
import UserPortal.RestApi.ScheduleBook
import UserPortal.RestApi.TopologyRequests
import UserPortal.Interaction.Refinement
import UserPortal.RestApi.LocationRequests
import UserPortal.RestApi.LocationBook
import UserPortal.RestApi.Routers
import UserPortal.RestApi.LocationConfinement
import UserPortal.Interaction.Translation
import UserPortal.Framework.Admission
import UserPortal.RestApi.RestServers
import UserPortal.RestApi.DeviceReports
import UserPortal.StatsAnswers
