import AgenticCommerce.Schema
import AgenticCommerce.Errors
import AgenticCommerce.Relational.UnitOfWork
import AgenticCommerce.Payments.Provider
import AgenticCommerce.Session
import AgenticCommerce.Audit
import AgenticCommerce.Checkout.Transitions
import AgenticCommerce.Inventory.Service
import AgenticCommerce.Inventory.Conservation
import AgenticCommerce.Policy.Service
import AgenticCommerce.Checkout.Service
import AgenticCommerce.Authorization.Service
import AgenticCommerce.Orders.Service
import AgenticCommerce.Payments.Idempotency
import AgenticCommerce.Payments.Service
import AgenticCommerce.Payments.Webhooks
import AgenticCommerce.Payments.Razorpay
import AgenticCommerce.Lifecycle.Purchase
import AgenticCommerce.Lifecycle.View
import AgenticCommerce.Payments.Rows
import AgenticCommerce.Lifecycle.Holds
import AgenticCommerce.Lifecycle.Moves
import AgenticCommerce.Lifecycle.Operations
import AgenticCommerce.Lifecycle.Payments
import AgenticCommerce.Worker
import AgenticCommerce.Lifecycle.Runs
import AgenticCommerce.Lifecycle.Laws
import AgenticCommerce.Payments.Recovery
import AgenticCommerce.Payments.Capture
import AgenticCommerce.Relational.Frames
import AgenticCommerce.Lifecycle.Frames
import AgenticCommerce.Lifecycle.Refusals
import AgenticCommerce.Payments.Delivery
import AgenticCommerce.Payments.Swallowed
import AgenticCommerce.Payments.Settling
import AgenticCommerce.Payments.Atomicity
import AgenticCommerce.Payments.Charging
import AgenticCommerce.Payments.Binding
import AgenticCommerce.Payments.Endpoints
import AgenticCommerce.Payments.RolledBack
import AgenticCommerce.Payments.ProviderOrders
import AgenticCommerce.Payments.Locking
import AgenticCommerce.Payments.Exclusion
import AgenticCommerce.Payments.Replay
import AgenticCommerce.Lifecycle.Steps
import AgenticCommerce.Relational.Trails
import AgenticCommerce.Lifecycle.Transits
import AgenticCommerce.Lifecycle.Ledger
import AgenticCommerce.Lifecycle.Pending
import AgenticCommerce.Lifecycle.Expiry
import AgenticCommerce.Payments.Refunds
import AgenticCommerce.Payments.DeadLetters
import AgenticCommerce.Lifecycle.Grants
import AgenticCommerce.Relational.RowLocks
import AgenticCommerce.Lifecycle.Interleaving
import AgenticCommerce.Offers.Service
import AgenticCommerce.Relational.Ranking
import AgenticCommerce.Offers.Constraints
import AgenticCommerce.Offers.Agreement
import AgenticCommerce.Tenancy
import AgenticCommerce.Offers.Isolation
import AgenticCommerce.Text.Base64
import AgenticCommerce.Text.JsonText
import AgenticCommerce.Access.Principals
import AgenticCommerce.Access.Tokens
import AgenticCommerce.Access.ApiKeys
import AgenticCommerce.Access.Operators
import AgenticCommerce.Access.Lockout
import AgenticCommerce.Access.EdgeSession
import AgenticCommerce.Relational.Machines
import AgenticCommerce.Channels.Secrets
import AgenticCommerce.Channels.Connectors
import AgenticCommerce.Channels.Service
import AgenticCommerce.Channels.Console
import AgenticCommerce.Channels.Isolation
import AgenticCommerce.Channels.Pushing
import AgenticCommerce.Agent.Tools
import AgenticCommerce.Agent.Facade
import AgenticCommerce.Agent.Loop
import AgenticCommerce.Agent.Confirmation
import AgenticCommerce.Relational.Upserts
import AgenticCommerce.Catalog.Artifacts
import AgenticCommerce.Catalog.Service
import AgenticCommerce.Policy.Rules
import AgenticCommerce.Offers.Spelling
import AgenticCommerce.Policy.Categories
import AgenticCommerce.Text.Floats
import AgenticCommerce.Campaigns.Models
import AgenticCommerce.Campaigns.Policy
import AgenticCommerce.Campaigns.Repository
import AgenticCommerce.Campaigns.Service
import AgenticCommerce.Campaigns.Contents
import AgenticCommerce.Campaigns.Steps
import AgenticCommerce.Campaigns.Exclusivity
import AgenticCommerce.Campaigns.Terminal
import AgenticCommerce.Campaigns.Ceiling
import AgenticCommerce.Campaigns.Persistence
import AgenticCommerce.Catalog.Publishing
import AgenticCommerce.Agent.Search
import AgenticCommerce.Relational.Journal
import AgenticCommerce.Relational.FirstKept
import AgenticCommerce.Pipeline.Records
import AgenticCommerce.Pipeline.Disk
import AgenticCommerce.Pipeline.Scan
import AgenticCommerce.Pipeline.Resumption
import AgenticCommerce.Pipeline.Products
import AgenticCommerce.Pipeline.Stages
import AgenticCommerce.Pipeline.Selection
import AgenticCommerce.Access.Issued
import AgenticCommerce.Access.Canonical
import AgenticCommerce.Text.Strings
import AgenticCommerce.Text.Regex
import AgenticCommerce.Agent.Guard
import AgenticCommerce.Text.Urls
import AgenticCommerce.Research.SourceRanker
import AgenticCommerce.Text.Addresses
import AgenticCommerce.Access.OutboundUrl
import AgenticCommerce.Money
import AgenticCommerce.Checkout.PriceHash
import AgenticCommerce.Payments.PriceGate
import AgenticCommerce.Text.BrowserUrls
import AgenticCommerce.Payments.ReturnUrl
import AgenticCommerce.Text.HostAddresses
import AgenticCommerce.Research.UrlPolicy
import AgenticCommerce.Text.Substitution
import AgenticCommerce.Text.Lines
import AgenticCommerce.Text.CharacterReferences
import AgenticCommerce.Text.Spacing
import AgenticCommerce.Research.Sanitizer
import AgenticCommerce.Research.Evidence
import AgenticCommerce.Research.Cache
import AgenticCommerce.Research.Answers
import AgenticCommerce.Pipeline.Manifest
import AgenticCommerce.Pipeline.Artifacts
import AgenticCommerce.Pipeline.Runs
import AgenticCommerce.Pipeline.Freshness
import AgenticCommerce.Operations.AlertContext
import AgenticCommerce.Operations.Alerts
import AgenticCommerce.Access.SlidingWindow
import AgenticCommerce.Relational.Maps
import AgenticCommerce.Access.RateLimits
import AgenticCommerce.Cache.RedisBackend
import AgenticCommerce.Text.Segments
import AgenticCommerce.Cache.Keys
import AgenticCommerce.Cache.Readers
import AgenticCommerce.Audit.Redaction
import AgenticCommerce.Text.WordBoundary
import AgenticCommerce.Observability.Logging
import AgenticCommerce.Observability.Scrubbing
import AgenticCommerce.Observability.LogLines
import AgenticCommerce.Negotiation
import AgenticCommerce.Offers.Canonical
import AgenticCommerce.Text.Rounding
import AgenticCommerce.Agent.Intent
import AgenticCommerce.Agent.IntentErrors
import AgenticCommerce.Agent.IntentBudget
import AgenticCommerce.Catalog.Staging
import AgenticCommerce.Catalog.CsvImport
import AgenticCommerce.Catalog.CsvPromotion
import AgenticCommerce.Catalog.Checksum
import AgenticCommerce.Pipeline.Scores
import AgenticCommerce.Pipeline.ImageShapes
import AgenticCommerce.Pipeline.Quotas
import AgenticCommerce.Pipeline.StorageKeys
import AgenticCommerce.Channels.Envelopes
import AgenticCommerce.Channels.Reconnecting
import AgenticCommerce.Lifecycle.Sweeps
import AgenticCommerce.Relational.Paging
import AgenticCommerce.Web.Catalog
import AgenticCommerce.Web.Pages
import AgenticCommerce.Web.Categories
import AgenticCommerce.Web.Orders
import AgenticCommerce.Web.Confirmations
import AgenticCommerce.Text.Decimals
import AgenticCommerce.Connectors.Offers
import AgenticCommerce.Connectors.Stated
import AgenticCommerce.Relational.Gathering
import AgenticCommerce.Recommendations.CrossSell
import AgenticCommerce.Recommendations.Purchasable
import AgenticCommerce.Catalog.Sellable
import AgenticCommerce.Catalog.Reimport
import AgenticCommerce.Relational.Matching
import AgenticCommerce.Lifecycle.Bookings
import AgenticCommerce.Lifecycle.Accounts
import AgenticCommerce.Relational.GrowingPages
import AgenticCommerce.Lifecycle.Kept
import AgenticCommerce.Orders.History
