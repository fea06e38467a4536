import OrgBilling.Proofs.Audit
import OrgBilling.Proofs.AuditReport
import OrgBilling.Proofs.CatalogCheck
import OrgBilling.Proofs.CatalogResync
import OrgBilling.Proofs.CatalogSync
import OrgBilling.Proofs.Checkout
import OrgBilling.Proofs.CheckoutPrice
import OrgBilling.Proofs.CustomerChange
import OrgBilling.Proofs.DefaultPrice
import OrgBilling.Proofs.Deletion
import OrgBilling.Proofs.Integrity
import OrgBilling.Proofs.Json.Reading
import OrgBilling.Proofs.Json.Rewriting
import OrgBilling.Proofs.Json.Wire
import OrgBilling.Proofs.Keys
import OrgBilling.Proofs.Listing
import OrgBilling.Proofs.NewSubscription
import OrgBilling.Proofs.Operation
import OrgBilling.Proofs.Provider.Addressing
import OrgBilling.Proofs.Provider.Exchange
import OrgBilling.Proofs.Provider.Expansion
import OrgBilling.Proofs.Provider.FailedReplacement
import OrgBilling.Proofs.Provider.FirstPage
import OrgBilling.Proofs.Provider.Memory
import OrgBilling.Proofs.Provider.Policy
import OrgBilling.Proofs.Provider.Replay
import OrgBilling.Proofs.Provider.Sessions
import OrgBilling.Proofs.Provider.Uniqueness
import OrgBilling.Proofs.Records
import OrgBilling.Proofs.Server
import OrgBilling.Proofs.Server.Completion
import OrgBilling.Proofs.Server.Delivery
import OrgBilling.Proofs.Server.Redelivery
import OrgBilling.Proofs.Service
import OrgBilling.Proofs.Signature
import OrgBilling.Proofs.Signature.Binding
import OrgBilling.Proofs.StoppedSync
import OrgBilling.Proofs.Store.Change
import OrgBilling.Proofs.Store.Effect
import OrgBilling.Proofs.Store.IndexSize
import OrgBilling.Proofs.Store.Ledger
import OrgBilling.Proofs.Store.LedgerFree
import OrgBilling.Proofs.Store.Linked
import OrgBilling.Proofs.Store.NetEffect
import OrgBilling.Proofs.Store.Order
import OrgBilling.Proofs.Store.Query
import OrgBilling.Proofs.Store.References
import OrgBilling.Proofs.Store.Schema
import OrgBilling.Proofs.Store.Session
import OrgBilling.Proofs.Transaction
import OrgBilling.Proofs.Unambiguous
import OrgBilling.Proofs.Url.Path
import OrgBilling.Proofs.Uuid
import OrgBilling.Proofs.Webhook.Acknowledged
import OrgBilling.Proofs.Webhook.Deleted
import OrgBilling.Proofs.Webhook.Failures
import OrgBilling.Proofs.Webhook.FirstAttempt
import OrgBilling.Proofs.Webhook.Handling
import OrgBilling.Proofs.Webhook.Machine
import OrgBilling.Proofs.Webhook.Once
import OrgBilling.Proofs.Webhook.Refinement
import OrgBilling.Proofs.Webhook.Retry
import OrgBilling.Proofs.Webhook.StatusUpdate
import OrgBilling.Proofs.Webhook.Summary
import OrgBilling.Proofs.Webhook.Wording
import OrgBilling.Provider.Connection
import OrgBilling.Provider.Sandbox
import OrgBilling.Server.Handler
import OrgBilling.Service.Audit
import OrgBilling.Service.CatalogSync
import OrgBilling.Url.Absolute
