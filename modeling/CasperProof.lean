import CasperProof.Agent.Cli
import CasperProof.Agent.Config
import CasperProof.Agent.Honest
import CasperProof.Agent.Lifecycle
import CasperProof.Agent.Loop
import CasperProof.Agent.MoreEvidence
import CasperProof.Agent.Payout
import CasperProof.Agent.PayoutAmount
import CasperProof.Agent.RawPayload
import CasperProof.Agent.RiskScorer
import CasperProof.Agent.Runtime
import CasperProof.Agent.Sound
import CasperProof.Agent.Tamper
import CasperProof.Commitment.Binding
import CasperProof.Commitment.FieldBinding
import CasperProof.Commitment.GoldenParity
import CasperProof.Commitment.HexText
import CasperProof.Commitment.KeyOrder
import CasperProof.Commitment.ReadBack
import CasperProof.Contracts.ChainLog
import CasperProof.Contracts.ChainRun
import CasperProof.Contracts.Claims
import CasperProof.Contracts.Dispute
import CasperProof.Contracts.EventLog
import CasperProof.Contracts.Liveness
import CasperProof.Contracts.LogRun
import CasperProof.Contracts.Problem
import CasperProof.Contracts.Reentrancy
import CasperProof.Contracts.Reputation
import CasperProof.Contracts.Settlement
import CasperProof.Contracts.Solvency
import CasperProof.Contracts.Supply
import CasperProof.Contracts.System
import CasperProof.Contracts.VaultLog
import CasperProof.Contracts.VaultReentrancy
import CasperProof.Lib.Attempts
import CasperProof.Lib.Damping
import CasperProof.Lib.EventBus
import CasperProof.Lib.Framing
import CasperProof.Lib.Op
import CasperProof.Lib.Shares
import CasperProof.Sdk.DeployHashes
import CasperProof.Sdk.Events
import CasperProof.Sdk.Expiry
import CasperProof.Sdk.LiveReads
import CasperProof.Sdk.MockDispute
import CasperProof.Sdk.MockRun
import CasperProof.Sdk.Rejection
import CasperProof.Sdk.RestBackend
import CasperProof.Sdk.SignedAttestation
import CasperProof.Sdk.Simulation
import CasperProof.Sdk.StakeTotal
import CasperProof.Sdk.Taxonomy
import CasperProof.Services.Mcp
import CasperProof.Services.System
import CasperProof.Services.X402
import CasperProof.Web.Motes
import CasperProof.Web.Rewards
import CasperProof.Web.RiskFactors
import CasperProof.Web.SeedLink
import CasperProof.Web.Staking
