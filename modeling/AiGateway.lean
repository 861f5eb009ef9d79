import AiGateway.Lib.Run
import AiGateway.Lib.Meter
import AiGateway.Lib.Double
import AiGateway.Lib.JsString
import AiGateway.Lib.Utf16
import AiGateway.Lib.JsMap
import AiGateway.Lib.JsAssign
import AiGateway.Lib.Chain
import AiGateway.Lib.JoinedGroups
import AiGateway.Lib.RunLoop
import AiGateway.Lib.Table
import AiGateway.Lib.FileTree
import AiGateway.Lib.Lines
import AiGateway.Lib.Json
import AiGateway.Lib.JsonText
import AiGateway.Lib.JsonIndent
import AiGateway.Lib.JsonRecord
import AiGateway.Lib.TagQuery
import AiGateway.Lib.EventStream
import AiGateway.Lib.JsValue
import AiGateway.Lib.JsNumber
import AiGateway.Lib.JsInteger
import AiGateway.Lib.Utf8
import AiGateway.Lib.Fallible
import AiGateway.Lib.HiddenItems
import AiGateway.Lib.Logged
import AiGateway.Lib.StepLog
import AiGateway.Lib.ClassValidator
import AiGateway.Lib.Monitor
import AiGateway.Config.Clients
import AiGateway.Config.GatewayConfig
import AiGateway.Config.FallbackChain
import AiGateway.Config.ConfigurationValidation
import AiGateway.Config.Environment
import AiGateway.RateLimit.TokenBucket
import AiGateway.RateLimit.ExactBucket
import AiGateway.RateLimit.UnderService
import AiGateway.RateLimit.ConcurrentStreams
import AiGateway.Cache.CachedReply
import AiGateway.Cache.VectorStore
import AiGateway.Cache.KnnQuery
import AiGateway.Cache.ReadPaths
import AiGateway.Cache.SearchReply
import AiGateway.Cache.Identity
import AiGateway.Cache.SemanticCache
import AiGateway.Cache.EmbeddingCircuit
import AiGateway.Chat.Singleflight
import AiGateway.Chat.Response
import AiGateway.Chat.ExecuteChat
import AiGateway.Chat.Resilience
import AiGateway.Chat.Executor
import AiGateway.Chat.AttemptCount
import AiGateway.Chat.StreamMiss
import AiGateway.Chat.StreamReplay
import AiGateway.Chat.ReplayChunks
import AiGateway.Chat.CachedAnswer
import AiGateway.Chat.ProviderInput
import AiGateway.Providers.Registry
import AiGateway.Providers.SdkErrors
import AiGateway.Providers.ResolvedAliases
import AiGateway.Chat.CallOptions
import AiGateway.Chat.ParamBounds
import AiGateway.Chat.AliasChecks
import AiGateway.Chat.ExactKey
import AiGateway.Chat.RequestDto
import AiGateway.Chat.NativeIngress
import AiGateway.Integrations.AnthropicRequest
import AiGateway.Providers.AnthropicTurns
import AiGateway.Integrations.OpenAiRequest
import AiGateway.Integrations.SystemText
import AiGateway.Integrations.Conversation
import AiGateway.Providers.RequestParams
import AiGateway.Chat.GenerationWarnings
import AiGateway.Integrations.AnthropicSettings
import AiGateway.Integrations.GatewayReply
import AiGateway.Integrations.OpenAiReply
import AiGateway.Integrations.AnthropicStream
import AiGateway.Integrations.AnthropicReply
import AiGateway.Http.Guards
import AiGateway.Http.StreamSlots
import AiGateway.Chat.CachePipeline
import AiGateway.Chat.CacheGates
import AiGateway.Chat.Cooldown
import AiGateway.Chat.Isolation
import AiGateway.Chat.SystemSignature
import AiGateway.Providers.Interface
import AiGateway.Providers.Anthropic
import AiGateway.Providers.TurnHistory
import AiGateway.Providers.Google
import AiGateway.Providers.GoogleChunks
import AiGateway.Providers.GoogleTools
import AiGateway.Providers.ChatCompletions
import AiGateway.Providers.ToolCallFragments
import AiGateway.Providers.ChatCompletionsStream
import AiGateway.Providers.Responses
import AiGateway.Providers.ResponsesStream
import AiGateway.Providers.ResponsesFragments
import AiGateway.Chat.UnfinishedReplies
import AiGateway.Cache.RedisConnection
import AiGateway.Integrations.Reply
import AiGateway.Chat.NativeStream
import AiGateway.Cli.ConfigInit
import AiGateway.Cli.Generation
import AiGateway.Cli.FailedInit
import AiGateway.Cli.WizardState
import AiGateway.Cli.WizardResume
import AiGateway.Cli.EnvPatch
import AiGateway.Cli.EnvUndo
import AiGateway.Cli.EnvLaws
import AiGateway.Cli.ManagedConfig
import AiGateway.Cli.AtomicAdd
import AiGateway.Cli.Managers
import AiGateway.Cli.PendingSecrets
import AiGateway.Cli.ConfigPreview
import AiGateway.Cli.ModelPolicy
import AiGateway.Cli.EditModel
import AiGateway.Cli.NonBootable
import AiGateway.Cli.Templates
import AiGateway.Cli.AgentAnswers
import AiGateway.Cli.AgentInit
import AiGateway.Cli.AgentBoot
import AiGateway.Chat.ErrorTable
import AiGateway.Http.ErrorAnswers
