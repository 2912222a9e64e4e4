import MandateLedger.Adapters.Carts
import MandateLedger.Core.Contexts
import MandateLedger.Core.Merchants
import MandateLedger.Engine.Authorization
import MandateLedger.Engine.Clients
import MandateLedger.Engine.Duplicates
import MandateLedger.Engine.Payments
import MandateLedger.Engine.Principals
import MandateLedger.Engine.Progress
import MandateLedger.Engine.Repeats
import MandateLedger.Memory.Delegation
import MandateLedger.Memory.Indexing
import MandateLedger.Memory.Pruning
import MandateLedger.Postgres.Agreement
import MandateLedger.Postgres.Budgets
import MandateLedger.Postgres.Nonces
import MandateLedger.Postgres.Revocations
import MandateLedger.Postgres.Tailing
import MandateLedger.Serve.Access
import MandateLedger.Serve.Reads
import MandateLedger.Serve.Verdicts
import MandateLedger.X402.Confirmations
import MandateLedger.X402.Digest
import MandateLedger.X402.Expiry
import MandateLedger.X402.Purchases
import MandateLedger.X402.Quantities
import MandateLedger.X402.References
