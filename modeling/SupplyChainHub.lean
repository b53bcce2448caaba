import SupplyChainHub.Library.Machines
import SupplyChainHub.Library.Automata
import SupplyChainHub.Library.Columns
import SupplyChainHub.Library.Tables
import SupplyChainHub.Library.Pools
import SupplyChainHub.Library.Polling
import SupplyChainHub.Library.Registers
import SupplyChainHub.Library.Versions
import SupplyChainHub.Library.Firsts
import SupplyChainHub.Library.Quantiles
import SupplyChainHub.Library.Joins
import SupplyChainHub.Library.Buckets
import SupplyChainHub.Library.Significant
import SupplyChainHub.Library.Trimming
import SupplyChainHub.Library.Cursors
import SupplyChainHub.Library.Csv
import SupplyChainHub.Library.Storage
import SupplyChainHub.Library.Paging
import SupplyChainHub.Domain.Values
import SupplyChainHub.Database.Rows
import SupplyChainHub.Imports.Failures
import SupplyChainHub.Database.Schema
import SupplyChainHub.Imports.Jobs
import SupplyChainHub.Imports.Records
import SupplyChainHub.Imports.Submissions
import SupplyChainHub.Inventory.Calls
import SupplyChainHub.Imports.Hub
import SupplyChainHub.Imports.Effects
import SupplyChainHub.Imports.Ledger
import SupplyChainHub.Imports.Changes
import SupplyChainHub.Imports.Transactions
import SupplyChainHub.Imports.Attempts
import SupplyChainHub.Imports.Recovery
import SupplyChainHub.Imports.Backoff
import SupplyChainHub.Imports.Trail
import SupplyChainHub.Imports.Streams
import SupplyChainHub.Imports.Terminal
import SupplyChainHub.Imports.Fencing
import SupplyChainHub.Imports.Sources
import SupplyChainHub.Imports.Lineage
import SupplyChainHub.Imports.Idempotency
import SupplyChainHub.Imports.Payloads
import SupplyChainHub.Imports.Uploads
import SupplyChainHub.Imports.Replays
import SupplyChainHub.Inventory.Positions
import SupplyChainHub.Inventory.Mappings
import SupplyChainHub.Inventory.LastCommit
import SupplyChainHub.Imports.Plans
import SupplyChainHub.Imports.Workers
import SupplyChainHub.Imports.Serial
import SupplyChainHub.Imports.Interleavings
import SupplyChainHub.Imports.Alone
import SupplyChainHub.Imports.Races
import SupplyChainHub.Integrations.Adapters
import SupplyChainHub.Imports.Isolation
import SupplyChainHub.Imports.Verdicts
import SupplyChainHub.Imports.Duplicates
import SupplyChainHub.Inventory.Applications
import SupplyChainHub.Inventory.Units
import SupplyChainHub.Imports.Tallies
import SupplyChainHub.Imports.Reimports
import SupplyChainHub.Imports.EventCursors
import SupplyChainHub.Inventory.PartnerKeys
import SupplyChainHub.Inventory.MappingColumns
import SupplyChainHub.Integrations.SourceRows
import SupplyChainHub.Domain.Shipments
import SupplyChainHub.Shipments.Calls
import SupplyChainHub.Shipments.Lifecycle
import SupplyChainHub.Shipments.PickUp
import SupplyChainHub.Shipments.Sending
import SupplyChainHub.Shipments.Origins
import SupplyChainHub.Shipments.Webhook
import SupplyChainHub.Analytics.Risk
import SupplyChainHub.Analytics.Reconciliation
import SupplyChainHub.Analytics.Synthetic
import SupplyChainHub.Analytics.Runs
import SupplyChainHub.Analytics.Benchmark
import SupplyChainHub.Pipelines.Keys
import SupplyChainHub.Pipelines.Quality
import SupplyChainHub.Pipelines.Publishing
import SupplyChainHub.Pipelines.Separation
import SupplyChainHub.Pipelines.Archive
import SupplyChainHub.Pipelines.RecentRuns
import SupplyChainHub.Pipelines.Daily
import SupplyChainHub.Pipelines.Seeding
import SupplyChainHub.Catalog.Calls
import SupplyChainHub.Api.Calls
import SupplyChainHub.Api.Integrity
import SupplyChainHub.Api.Listings
import SupplyChainHub.Imports.Constraints
import SupplyChainHub.Imports.UniqueKeys
import SupplyChainHub.Imports.Progress
import SupplyChainHub.Imports.Dispatching
