import XochiSdk.Js.Text
import XochiSdk.Js.Value
import XochiSdk.Js.Host
import XochiSdk.Shared.Chains
import XochiSdk.Shared.Intents
import XochiSdk.Shared.Eip712
import XochiSdk.Shared.Validators
import XochiSdk.Signer.Compare
import XochiSdk.Signer.IntentVerify
import XochiSdk.Signer.DepositVerify
import XochiSdk.Client.Wire
import XochiSdk.Client.State
import XochiSdk.Client.Failure
import XochiSdk.Client.ValidateRequest
import XochiSdk.Client.Decisions
import XochiSdk.Client.QuoteChecks
import XochiSdk.Client.SolverPin
import XochiSdk.Library.Emits
import XochiSdk.Library.Footprint
import XochiSdk.Library.History
import XochiSdk.Client.Machine.Model
import XochiSdk.Client.Machine.Transition
import XochiSdk.Client.Machine.Quote
import XochiSdk.Client.Machine.Sign
import XochiSdk.Client.Machine.Status
import XochiSdk.Client.Machine.Update
import XochiSdk.Client.Machine.Moves
import XochiSdk.Client.Machine.Acts
import XochiSdk.Client.Machine.QuoteActs
import XochiSdk.Client.Machine.StatusActs
import XochiSdk.Client.Machine.SignActs
import XochiSdk.Client.Machine.ExecuteActs
import XochiSdk.Client.Machine.UpdateActs
import XochiSdk.Client.Machine.Invariants
import XochiSdk.Client.Machine.Rest
import XochiSdk.Client.Machine.Calm
import XochiSdk.Client.Machine.Play
import XochiSdk.Client.InDoubt
import XochiSdk.Client.Fee
import XochiSdk.Client.FeeReconciled
import XochiSdk.Client.Machine.InFlight
import XochiSdk.Client.Machine.Retry
import XochiSdk.Client.Machine.Abandon
import XochiSdk.Client.Machine.Consistent
import XochiSdk.Client.Machine.Polling
import XochiSdk.Client.Machine.Unanswered
import XochiSdk.Library.Numerals
import XochiSdk.Library.Printing
import XochiSdk.Library.JsonText
import XochiSdk.Library.Async
import XochiSdk.Library.Plays
import XochiSdk.Js.Json
import XochiSdk.Js.Map
import XochiSdk.Js.Search
import XochiSdk.Js.Double
import XochiSdk.Library.Floors
import XochiSdk.Client.Machine.TradeKey
import XochiSdk.Client.Machine.Countdown
import XochiSdk.Client.Machine.Ledger
import XochiSdk.Client.Machine.LedgerSteps
import XochiSdk.Client.Machine.Landing
import XochiSdk.Client.Machine.Progress
import XochiSdk.Client.Machine.PollRules
import XochiSdk.Client.Machine.Fixpoint
import XochiSdk.Client.Machine.PollSteps
import XochiSdk.Client.Machine.StaleReply
import XochiSdk.Client.Machine.PollCeiling
import XochiSdk.Client.Transport.StatusRead
import XochiSdk.Client.Transport.PrefixToken
import XochiSdk.Client.Machine.UnmappedStatus
import XochiSdk.Client.Machine.TimerBook
import XochiSdk.Client.Machine.PromptBound
import XochiSdk.Client.Machine.TimerRuns
import XochiSdk.Client.Machine.Allocations
import XochiSdk.Client.Transport.QuoteTerms
import XochiSdk.Solver.Types
import XochiSdk.Solver.TxSender
import XochiSdk.Solver.Gateway
import XochiSdk.Library.Traces
import XochiSdk.Solver.Client
import XochiSdk.Solver.VersionGate
import XochiSdk.Solver.FeeLadder
import XochiSdk.Solver.ClaimLoop
import XochiSdk.Library.Utf16
import XochiSdk.Library.Script
import XochiSdk.Library.Bytes
import XochiSdk.Library.Primality
import XochiSdk.Library.Keccak
import XochiSdk.Js.Hex
import XochiSdk.Signer.Primitives
import XochiSdk.Signer.Uint
import XochiSdk.Signer.AttestationText
import XochiSdk.Signer.Capabilities
import XochiSdk.Client.StoredDeposit
import XochiSdk.Signer.ShieldedValues
import XochiSdk.Signer.Shielded
import XochiSdk.Signer.ShieldedReadiness
import XochiSdk.Signer.ShieldedRecipient
import XochiSdk.Signer.RecipientAcks
import XochiSdk.Signer.ShieldedDigests
import XochiSdk.Signer.Xsp
import XochiSdk.Signer.XspDigests
import XochiSdk.Signer.Escrow
import XochiSdk.Signer.EscrowLaw
import XochiSdk.Signer.TypedData
import XochiSdk.Signer.EscrowDigests
import XochiSdk.Signer.EscrowSigned
import XochiSdk.Signer.Grumpkin
import XochiSdk.Signer.RecipientSchnorr
import XochiSdk.Signer.Ethers
import XochiSdk.Solver.Bid
import XochiSdk.Solver.BidSeal
import XochiSdk.Signer.StealthEcdh
import XochiSdk.Signer.Stealth
import XochiSdk.Recipient.Record
import XochiSdk.Recipient.NodeSubmission
import XochiSdk.Recipient.Backup
import XochiSdk.Recipient.Boundary
import XochiSdk.Recipient.Journal
import XochiSdk.Recipient.Terminal
import XochiSdk.Signer.ReadinessLaw
import XochiSdk.Sdk.Tiers
import XochiSdk.Sdk.Scoring
import XochiSdk.Sdk.Split
import XochiSdk.Sdk.VenueRouter
import XochiSdk.Sdk.VenueLaw
import XochiSdk.Sdk.Diffusion
import XochiSdk.Sdk.Orchestrator
import XochiSdk.Sdk.PlanSound
import XochiSdk.Sdk.Inputs.Validate
import XochiSdk.Sdk.Inputs.MultiSigned
import XochiSdk.Sdk.Inputs.Pattern
import XochiSdk.Sdk.Inputs.RiskScore
import XochiSdk.Sdk.Inputs.Mirrors
import XochiSdk.Sdk.Inputs.PatternMirrors
import XochiSdk.Sdk.Inputs.RiskMirrors
import XochiSdk.Sdk.Inputs.Accepted
import XochiSdk.Sdk.TierProofs
import XochiSdk.Sdk.ScoreReaders
import XochiSdk.Library.Abi
import XochiSdk.Sdk.OracleLite
import XochiSdk.Sdk.OracleCodec
import XochiSdk.Sdk.OracleLaw
import XochiSdk.Wire.RefScan
import XochiSdk.Wire.NumberLaw
import XochiSdk.Provider.ReplayLaw
import XochiSdk.Signer.AckReplay
import XochiSdk.Library.SerialChain
import XochiSdk.Shared.SerialQueues
import XochiSdk.Js.UrlSearchParams
import XochiSdk.Widget.Params
import XochiSdk.Widget.ParamsLaw
import XochiSdk.Js.PageValue
import XochiSdk.Widget.Bridge
import XochiSdk.Widget.BridgeLaw
import XochiSdk.Solver.EventFeed
import XochiSdk.Solver.FeedCursor
import XochiSdk.Solver.Session
import XochiSdk.Solver.SessionLaw
import XochiSdk.Client.Machine.Resends
import XochiSdk.Client.Machine.Provenance
import XochiSdk.Client.Machine.Absorbed
import XochiSdk.Client.Machine.Vetted
import XochiSdk.Js.HexCase
import XochiSdk.Library.Outcome
import XochiSdk.Signer.Erc4337
import XochiSdk.Signer.ClaimVerify
import XochiSdk.Signer.ClaimLaw
import XochiSdk.Signer.ClaimDigest
import XochiSdk.Solver.Award
import XochiSdk.Solver.AwardLaw
