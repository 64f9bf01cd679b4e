import CaiNetwork.Tally
import CaiNetwork.Sha256
import CaiNetwork.Json
import CaiNetwork.Host
import CaiNetwork.Signing
import CaiNetwork.Transaction
import CaiNetwork.Block
import CaiNetwork.Genesis
import CaiNetwork.Validate
import CaiNetwork.Accepted
import CaiNetwork.Store
import CaiNetwork.Append
import CaiNetwork.Registry
import CaiNetwork.Authority
import CaiNetwork.Merge
import CaiNetwork.MergeLaws
import CaiNetwork.Export
import CaiNetwork.MergeSafety
import CaiNetwork.Convergence
import CaiNetwork.Reread
import CaiNetwork.Committee
import CaiNetwork.Spending
import CaiNetwork.Transfer
import CaiNetwork.ChainRuns
import CaiNetwork.Settlement.Records
import CaiNetwork.History
import CaiNetwork.Settlement.Envelope
import CaiNetwork.Settlement.ChainEntries
import CaiNetwork.Settlement.Lifecycle
import CaiNetwork.Settlement.Import
import CaiNetwork.Settlement.Funding
import CaiNetwork.Settlement.Votes
import CaiNetwork.Settlement.Finality
import CaiNetwork.Settlement.Runs
import CaiNetwork.Validator.Bonds
import CaiNetwork.Validator.Mode
import CaiNetwork.Validator.Moves
import CaiNetwork.Validator.Steps
import CaiNetwork.Validator.Outcomes
import CaiNetwork.Validator.Runs
import CaiNetwork.Validator.Recognition
import CaiNetwork.Focus
import CaiNetwork.Transport.Session
import CaiNetwork.Transport.Leases
import CaiNetwork.Transport.Completion
import CaiNetwork.Jsonl
import CaiNetwork.Capabilities
import CaiNetwork.Registry.Remote
import CaiNetwork.Registry.Runs
import CaiNetwork.Registry.Lease
import CaiNetwork.Events.Buffer
import CaiNetwork.Events.Router
import CaiNetwork.Events.Replication
import CaiNetwork.Events.Liveness
import CaiNetwork.Events.Incarnations
import CaiNetwork.Election.Loop
import CaiNetwork.Transport.Attempts
import CaiNetwork.Transport.ReplayCache
import CaiNetwork.Transport.Signatures
import CaiNetwork.Transport.Replays
import CaiNetwork.Transport.Envelope
import CaiNetwork.Transport.RoundTrip
import CaiNetwork.Tiling
import CaiNetwork.Transport.Shards
import CaiNetwork.Transport.Dag
import CaiNetwork.Transport.DagChecks
import CaiNetwork.Transport.DagLaws
import CaiNetwork.Transport.DagBuilt
import CaiNetwork.FeeSplit
import CaiNetwork.FundingPlan
import CaiNetwork.Pricing
import CaiNetwork.LargestRemainder
import CaiNetwork.Settlement.Rewards
import CaiNetwork.Settlement.ImportFrame
import CaiNetwork.Placement.Pipeline
import CaiNetwork.StorageAccounting
import CaiNetwork.Settlement.Proposals
