import NestBackend.JavaScript
import NestBackend.GlobPattern
import NestBackend.EventRun
import NestBackend.ProgramPool
import NestBackend.SessionStore
import NestBackend.JwtService
import NestBackend.SessionPayload
import NestBackend.AuthSessionService
import NestBackend.BaseAuthService
import NestBackend.JwtGuard
import NestBackend.AuthSystem
import NestBackend.GuardSoundness
import NestBackend.SignedTokens
import NestBackend.IssuingRuns
import NestBackend.TokenIssuance
import NestBackend.UnverifiedClaims
import NestBackend.TokenRenewal
import NestBackend.RenewedSession
import NestBackend.ReadModifyWrite
import NestBackend.SessionUpdates
import NestBackend.PermissionInterceptor
import NestBackend.SequentialRun
import NestBackend.SignContract
import NestBackend.SignContractRuns
import NestBackend.SignContractFlow
import NestBackend.SignContractRace
import NestBackend.DeletedKeys
import NestBackend.LogoutFinality
import NestBackend.SparedKeys
import NestBackend.ConcurrentLogins
import NestBackend.Redis
import NestBackend.BaseRedisService
import NestBackend.AmqpCacheService
import NestBackend.AmqpReceiving
import NestBackend.RedeliveryBudget
import NestBackend.RedeliveryBound
import NestBackend.AmqpSubscription
import NestBackend.AmqpCredit
import NestBackend.AmqpConsumer
import NestBackend.Readable
import NestBackend.StreamService
import NestBackend.QueryRunners
import NestBackend.TemporaryQueues
import NestBackend.AmqpSending
import NestBackend.TopicPattern
import NestBackend.AmqpMessaging
import NestBackend.AmqpManagement
import NestBackend.SessionCalls
import NestBackend.RecordMap
import NestBackend.SessionLifetime
import NestBackend.SessionQueries
import NestBackend.FormUrlEncoded
import NestBackend.InterpolatedUrl
import NestBackend.Transactions
import NestBackend.SqlTransactions
import NestBackend.ReadThrough
import NestBackend.UserService
import NestBackend.FlowSessions
import NestBackend.FaultyRun
import NestBackend.PermissionGrants
import NestBackend.SessionRefinement
import NestBackend.LoginRevocation
import NestBackend.FlowPermissionLists
import NestBackend.QueueDeclarations
import NestBackend.ResponseBodies
import NestBackend.RedisFlush
import NestBackend.SoftDeletion
import NestBackend.Binary64
import NestBackend.Doubles
import NestBackend.ExposedClass
import NestBackend.Paging
import NestBackend.PagePartition
import NestBackend.PathParameters
import NestBackend.ProgramErasure
import NestBackend.UserIsolation
import NestBackend.SeenProperty
import NestBackend.PermissionOrder
import NestBackend.UserController
import NestBackend.RecentReads
import NestBackend.ProfileReads
import NestBackend.EntryLifetimes
import NestBackend.SessionEnds
import NestBackend.WorkflowMessages
import NestBackend.UnheardDeliveries
import NestBackend.HandledOnce
import NestBackend.ShrinkingPages
import NestBackend.UserList
import NestBackend.LostKeys
import NestBackend.SignOuts
import NestBackend.JsonText
import NestBackend.WritableValues
import NestBackend.AlikePrograms
import NestBackend.RedisServer
import NestBackend.SessionServer
