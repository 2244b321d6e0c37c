import Turnstile.Session.Prompt
import Turnstile.Proofs.Outbox.Delivery
import Turnstile.Proofs.World.Acts
import Turnstile.Proofs.Outbox.Queue
import Turnstile.Proofs.Outbox.Ledger
import Turnstile.Proofs.World.Steps
import Turnstile.Proofs.World.History
import Turnstile.Proofs.Gate.Effects
import Turnstile.Proofs.Registry.Standing
import Turnstile.Proofs.Store.Counted
import Turnstile.Proofs.World.Counted
import Turnstile.Proofs.Registry.Floor
import Turnstile.Proofs.World.Floors
import Turnstile.Proofs.World.Coherence
import Turnstile.Proofs.Gate.Escalation
import Turnstile.Proofs.Gate.Restart
import Turnstile.Proofs.Gate.FailOpen
import Turnstile.Proofs.Registry.Guard
import Turnstile.Proofs.Store.OpenRows
import Turnstile.Proofs.Store.History
import Turnstile.Proofs.World.Lingering
import Turnstile.Proofs.World.BanCalls
import Turnstile.Proofs.Gate.Release
import Turnstile.Proofs.Registry.Listing
import Turnstile.Proofs.World.Agreement
import Turnstile.Proofs.Gate.Reload
import Turnstile.Proofs.Limiter.Bound
import Turnstile.Proofs.Store.Refinement
import Turnstile.Proofs.World.Clients
import Turnstile.Proofs.World.Retention
import Turnstile.Proofs.World.Requests
import Turnstile.Proofs.World.Fleet
import Turnstile.Proofs.Gate.Causes
import Turnstile.Proofs.Store.Booked
import Turnstile.Proofs.World.Accounts
import Turnstile.Proofs.Gate.Accounting
import Turnstile.Proofs.Gate.Enforced
import Turnstile.Proofs.World.Deadlines
import Turnstile.Proofs.Registry.Merge
import Turnstile.Proofs.Gate.Merge
import Turnstile.Proofs.Gate.Extension
import Turnstile.Proofs.Store.Removals
import Turnstile.Proofs.World.Exchanges
import Turnstile.Proofs.Gate.Retained
import Turnstile.Proofs.Audit.Trail
import Turnstile.Proofs.World.Chronicle
import Turnstile.Proofs.Gate.Replay
import Turnstile.Proofs.Gate.Balance
import Turnstile.Proofs.Session.Turns
import Turnstile.Proofs.Session.Lifecycle
import Turnstile.Proofs.Limiter.Eviction
import Turnstile.Proofs.Limiter.Limits
import Turnstile.Proofs.Gate.Errors
import Turnstile.Proofs.Limiter.Wait
import Turnstile.Proofs.World.Deeds
import Turnstile.Proofs.World.Buckets
import Turnstile.Proofs.World.Terms
import Turnstile.Proofs.Gate.RetryAfter
import Turnstile.Proofs.Store.Closed
import Turnstile.Proofs.World.Closing
import Turnstile.Proofs.Gate.AutoRelease
import Turnstile.Proofs.Registry.Sentences
import Turnstile.Proofs.Gate.Sentences
import Turnstile.Proofs.Tiers
import Turnstile.Proofs.Retry
import Turnstile.Proofs.Tally
import Turnstile.Proofs.World.Cadence
import Turnstile.Proofs.Audit.Lines
import Turnstile.Proofs.Config
