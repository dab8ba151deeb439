import Kanaka.Machine.Safety
import Kanaka.Contracts.Interface
import Kanaka.Contracts.CDROracle
import Kanaka.Contracts.Governance
import Kanaka.Contracts.Network
import Kanaka.Contracts.RewardDistributor
import Kanaka.Contracts.StrategyRegistry
import Kanaka.Contracts.VaultManager
import Kanaka.Contracts.YieldEngine
import Kanaka.Proof.VaultManager.Accounting
import Kanaka.Proof.RewardDistributor.Conservation
import Kanaka.Proof.Governance.Tally
import Kanaka.Proof.Governance.Lifecycle
import Kanaka.Proof.Governance.Power
import Kanaka.Proof.YieldEngine.Weights
import Kanaka.Proof.Governance.Rewards
import Kanaka.Machine.Progress
import Kanaka.Proof.Pools.Liquidity
import Kanaka.Proof.Pools.Registration
import Kanaka.Proof.Pools.Registry
import Kanaka.Proof.Pools.Custody
import Kanaka.Machine.Outcome
import Kanaka.Proof.Pools.Rebalance
import Kanaka.Proof.Pools.Acceptance
import Kanaka.Proof.Pools.Limits
import Kanaka.Proof.Transfers
import Kanaka.Async.Task
import Kanaka.Async.Pool
import Kanaka.Backend.ErrorHandler
import Kanaka.Backend.TransactionService
import Kanaka.Proof.Backend.Submission
import Kanaka.Backend.GovernanceService
import Kanaka.Proof.Backend.Governance.Calls
import Kanaka.Proof.Backend.Governance.Turns
import Kanaka.Proof.Backend.Governance.OneVote
import Kanaka.Proof.Backend.Governance.Rows
import Kanaka.Proof.Backend.Governance.Tally
import Kanaka.Proof.Backend.Governance.Finality
import Kanaka.Proof.Backend.Governance.Execution
import Kanaka.Proof.Backend.Governance.Outcome
import Kanaka.Proof.Backend.Governance.Cached
import Kanaka.Backend.CircuitBreaker
import Kanaka.Proof.Backend.Breaker.Simulation
import Kanaka.Proof.Backend.Breaker.Equivalence
import Kanaka.Proof.Backend.Breaker.Probing
import Kanaka.Backend.ContractAuthGuard
import Kanaka.Proof.Backend.Breaker.Denials
import Kanaka.Store.Expiring
import Kanaka.Backend.RateLimiterService
import Kanaka.Backend.LockService
import Kanaka.Backend.JsValue
import Kanaka.Backend.User
import Kanaka.Backend.SignatureService
import Kanaka.Backend.UserService
import Kanaka.Backend.AuthService
import Kanaka.Backend.JwtStrategy
import Kanaka.Proof.Backend.RateLimit
import Kanaka.Proof.Backend.Locks
import Kanaka.Proof.Backend.Nonces
import Kanaka.Proof.Backend.Identity
import Kanaka.Proof.Backend.Auth.Requests
import Kanaka.Proof.Backend.Auth.Logins
import Kanaka.Proof.Backend.Auth.ApiKeys
import Kanaka.Async.Alone
import Kanaka.Store.Pages
import Kanaka.Proof.Backend.Governance.Queries
import Kanaka.Proof.Backend.Governance.Coherence
import Kanaka.Store.Table
import Kanaka.Async.Sequence
import Kanaka.Async.Accounts
import Kanaka.Backend.Text
import Kanaka.Backend.VaultManagerService
import Kanaka.Proof.Backend.Vault.Mirror
import Kanaka.Backend.RewardDistributorService
import Kanaka.Proof.Backend.Rewards.Mirror
import Kanaka.Backend.CDROracleService
import Kanaka.Machine.Transactions
import Kanaka.Proof.Backend.Oracle.Correlations
import Kanaka.Backend.StrategyRegistryService
import Kanaka.Proof.Backend.Registry.Mirror
import Kanaka.Backend.YieldEngineService
import Kanaka.Proof.Backend.Weights.Mirror
import Kanaka.Async.Expand
import Kanaka.Backend.TransactionMonitorService
import Kanaka.Proof.Backend.Vault.Interleaved
import Kanaka.Proof.Backend.TransactionStatus
import Kanaka.Backend.DefiService
import Kanaka.Proof.Backend.PoolValue
import Kanaka.Backend.JsNumber
import Kanaka.Backend.GasOptimizerService
import Kanaka.Proof.Backend.GasPrices
import Kanaka.Proof.Backend.Errors
import Kanaka.Backend.Retry
import Kanaka.Proof.Backend.Retries
import Kanaka.Json.Balanced
import Kanaka.Json.Value
import Kanaka.Text.Regex
import Kanaka.Backend.JsRegex
import Kanaka.Backend.JsText
import Kanaka.Backend.RequestSanitizerMiddleware
import Kanaka.Backend.SensitiveDataFilter
import Kanaka.Json.Paths
import Kanaka.Proof.Backend.Redaction
import Kanaka.Proof.Backend.Sanitizing
import Kanaka.Backend.HttpCacheInterceptor
import Kanaka.Proof.Backend.CacheKeys
import Kanaka.Proof.Backend.Breaker.Blocking
import Kanaka.Proof.Backend.Misses
import Kanaka.Proof.Backend.Structure
import Kanaka.Backend.GasUsageHistory
import Kanaka.Proof.Backend.GasUsage
import Kanaka.Proof.Backend.GasPriceOrder
import Kanaka.Proof.Backend.Deposits
import Kanaka.Backend.StrategyRegistryController
import Kanaka.Proof.Backend.Registry.Explanations
import Kanaka.Proof.Pools.Yields
import Kanaka.Async.Timers
import Kanaka.Backend.RedisService
import Kanaka.Proof.Backend.Reconnecting
import Kanaka.Backend.EventListenerService
import Kanaka.Proof.Backend.Unreconnected
import Kanaka.Backend.ApiKeyStrategy
import Kanaka.Proof.Backend.Auth.Configured
import Kanaka.Order.Ranks
import Kanaka.Proof.Backend.GasStats
import Kanaka.Async.ReadThrough
import Kanaka.Proof.Backend.CacheIsolation
import Kanaka.Async.Isolation
import Kanaka.Backend.Guards
import Kanaka.Proof.Backend.Admission
import Kanaka.Machine.Local
import Kanaka.Proof.Backend.Oracle.Metrics
import Kanaka.Contracts.Views
import Kanaka.Proof.Protocol.Agreement
import Kanaka.Proof.Protocol.Frozen
import Kanaka.Proof.Protocol.Mirrors
import Kanaka.Proof.Protocol.Ownership
import Kanaka.Machine.Announced
import Kanaka.Proof.Governance.Log
import Kanaka.Proof.Protocol.Logs
import Kanaka.Machine.Completion
import Kanaka.Proof.Protocol.Economy
import Kanaka.Proof.Protocol.Exit
import Kanaka.Frontend.AuthContext
import Kanaka.Proof.Frontend.Session
