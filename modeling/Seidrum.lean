import Seidrum.EventBus.Storage.Sequence
import Seidrum.EventBus.Dispatch.InterceptorOrder
import Seidrum.EventBus.OpenDeliveries
import Seidrum.EventBus.Finalization
import Seidrum.EventBus.RetriedPayload
import Seidrum.EventBus.Pipeline
import Seidrum.EventBus.Restart
import Seidrum.EventBus.WebhookRecords
import Seidrum.EventBus.Transport.StartUp
import Seidrum.EventBus.Delivery.CircuitRuns
import Seidrum.EventBus.Transport.CyclicWait
import Seidrum.Client.BusClient
import Seidrum.Client.Continuity
import Seidrum.Agent.TurnCalls
import Seidrum.Agent.Outbound
import Seidrum.Agent.Audit
import Seidrum.EventBus.Transport.RegistrationRaces
import Seidrum.Kernel.PluginStorage
import Seidrum.Kernel.Noninterference
import Seidrum.Kernel.Forwarding
import Seidrum.Kernel.ResponseRouting
import Seidrum.Plugins.PromptBudget
import Seidrum.Plugins.Router
import Seidrum.Plugins.GeminiNames
import Seidrum.Plugins.ProviderMessages
import Seidrum.Gateway.EventStream
import Seidrum.Agent.JobRuns
import Seidrum.Daemon.EnvReferences
import Seidrum.Daemon.PluginStart
import Seidrum.Daemon.SingleInstance
import Seidrum.Daemon.PluginsFile
import Seidrum.EventBus.Storage.DeliveryRecords
import Seidrum.EventBus.PassUnchanged
import Seidrum.Kernel.DocumentKeys
import Seidrum.Gateway.KeyCredentials
import Seidrum.Gateway.PluginActions
import Seidrum.Plugins.Feedback
import Seidrum.Plugins.SharedConversations
import Seidrum.Daemon.PackageGraph
import Seidrum.EventBus.DeadLetterReplays
import Seidrum.EventBus.Delivery.WebhookPinning
import Seidrum.EventBus.Delivery.RemoteInterceptor
import Seidrum.Client.SenderRegistry
import Seidrum.Kernel.Guardrails
import Seidrum.Kernel.HealthChecks
import Seidrum.Plugins.DispatcherReplies
import Seidrum.Kernel.FactAtomicity
import Seidrum.Kernel.CapabilityStore
import Seidrum.Kernel.SubscriptionCap
import Seidrum.Kernel.PluginStatus
import Seidrum.Plugins.MarkdownEscaping
import Seidrum.Plugins.CodeExecutor
import Seidrum.Plugins.MessageSplitting
