import OrgBilling.Store.Catalog

/-!
# Consistency checks

Checks that read the database and report where it is not as it should be. There are five of them;
each reports a violation for every place at which its rule is broken:

* there is at most one active price;
* every subscription is linked to exactly one organization;
* an organization holds the customer of the subscriptions that it is linked to;
* every subscription has a line item;
* active products and prices carry the provider's id.
-/

namespace OrgBilling.Audit

/-- How bad a violation is. -/
inductive Severity where
  /-- Customers may be charged wrongly. -/
  | critical
  /-- Someone has to act. -/
  | high
  /-- Someone should look. -/
  | medium
  /-- For information. -/
  | low
  deriving DecidableEq

namespace Severity

/-- The name under which a severity is exchanged. -/
def name : Severity → String
  | critical => "Critical"
  | high => "High"
  | medium => "Medium"
  | low => "Low"

/-- The text that shows a severity to people. -/
def label : Severity → String
  | critical => "CRITICAL"
  | high => "HIGH"
  | medium => "MEDIUM"
  | low => "LOW"

/-- The severities by name. -/
def byName : List (String × Severity) :=
  [critical, high, medium, low].map fun s => (s.name, s)

end Severity

/-- A place at which the data is not as it should be. -/
structure Violation where
  /-- The name of the check. -/
  invariant : String
  /-- The organizations that are affected. -/
  organizations : List Uuid
  /-- What is wrong, for people. -/
  description : String
  /-- What is wrong, for programs. -/
  context : Json
  /-- How bad it is. -/
  severity : Severity

namespace Violation

/-- A violation as a JSON object. -/
def toJson (v : Violation) : Json :=
  .object
    [("invariant", .string v.invariant),
     ("org_ids", .array (v.organizations.map Uuid.toJson)),
     ("description", .string v.description),
     ("context", v.context),
     ("severity", .string v.severity.name)]

/-- Read a violation from JSON. -/
def decode : Decoder Violation :=
  Decoder.record ["invariant", "org_ids", "description", "context", "severity"] fun m => do
    some
      { invariant := ← m.required "invariant" Decoder.text
        organizations := ← m.required "org_ids" (Decoder.list Uuid.decode)
        description := ← m.required "description" Decoder.text
        context := ← m.required "context" Decoder.any
        severity := ← m.required "severity" (Decoder.named Severity.byName) }

end Violation

/-- A consistency check. -/
inductive Check where
  /-- There is at most one active price. -/
  | singleActivePrice
  /-- Every subscription is linked to exactly one organization. -/
  | subscriptionLinkedOnce
  /-- Linked organizations hold the subscription's customer. -/
  | subscriptionCustomerMatches
  /-- Every subscription has a line item. -/
  | subscriptionHasItems
  /-- Active products and prices carry the provider's id. -/
  | activeCatalogSynced
  deriving DecidableEq

namespace Check

/-- Every check, in the order in which they are run. -/
def all : List Check :=
  [singleActivePrice, subscriptionLinkedOnce, subscriptionCustomerMatches, subscriptionHasItems,
   activeCatalogSynced]

/-- The name of a check. -/
def name : Check → String
  | singleActivePrice => "single_active_price"
  | subscriptionLinkedOnce => "subscription_linked_once"
  | subscriptionCustomerMatches => "subscription_customer_matches_organization"
  | subscriptionHasItems => "subscription_has_items"
  | activeCatalogSynced => "active_catalog_synced"

/-- The check with a name. -/
def byName? (name : String) : Option Check :=
  all.find? (·.name == name)

/-- The links of a subscription. -/
def linksOf (s : Store) (sub : Subscription) : List OrganizationLink :=
  s.links.rows.filter (·.subscription == sub.id)

/-- A violation if there are several active prices. It lists them in the order of their ids. -/
def severalActivePrices (s : Store) : List Violation :=
  let active := Store.sortPrices s.activePrices
  if active.length ≤ 1 then []
  else
    let entry (p : CatalogPrice) : Json :=
      .object
        [("id", p.id.toJson), ("price_id", .ofOption p.priceId), ("unit_amount", .int p.unitAmount)]
    [{ invariant := singleActivePrice.name
       organizations := []
       description := s!"{active.length} active subscription prices (expected 1)"
       context := .object [("prices", .array (active.map entry))]
       severity := .critical }]

/-- A violation for a subscription that has no link or several. -/
def notLinkedOnce (s : Store) (sub : Subscription) : List Violation :=
  let links := linksOf s sub
  if links.length = 1 then []
  else
    [{ invariant := subscriptionLinkedOnce.name
       organizations := links.map (·.organization)
       description :=
         s!"Subscription {sub.subscriptionId} is linked to {links.length} organizations " ++
           "(expected 1)"
       context :=
         .object
           [("subscription_id", .string sub.subscriptionId),
            ("customer_id", .string sub.customerId),
            ("link_count", .int links.length)]
       severity := .high }]

/-- A violation for a link between a subscription and an organization with another customer. -/
def customerMismatch (s : Store) (l : OrganizationLink) : List Violation :=
  match s.organization? l.organization, s.subscription? l.subscription with
  | some o, some sub =>
    if o.customerId = some sub.customerId then []
    else
      let held := o.customerId.getD "(none)"
      [{ invariant := subscriptionCustomerMatches.name
         organizations := [o.id]
         description :=
           s!"Subscription {sub.subscriptionId} belongs to customer {sub.customerId} " ++
             s!"but its organization has customer {held}"
         context :=
           .object
             [("subscription_id", .string sub.subscriptionId),
              ("customer_id", .string sub.customerId),
              ("org_customer_id", .ofOption o.customerId)]
         severity := .critical }]
  | _, _ => []

/-- Violations for a subscription without line items: one for each link, or one if it has none. -/
def withoutItems (s : Store) (sub : Subscription) : List Violation :=
  if s.items.rows.any (·.subscription == sub.id) then []
  else
    let violation (organizations : List Uuid) : Violation :=
      { invariant := subscriptionHasItems.name
        organizations
        description := s!"Subscription {sub.subscriptionId} has no items"
        context := .object [("subscription_id", .string sub.subscriptionId)]
        severity := .medium }
    match linksOf s sub with
    | [] => [violation []]
    | links => links.map fun l => violation [l.organization]

/-- A violation for an active row of the catalog that has not been pushed to the provider. -/
def notSynced (kind : String) (id : Uuid) (name : String) : Violation :=
  { invariant := activeCatalogSynced.name
    organizations := []
    description := s!"Active {kind} '{name}' has not been synced to the provider"
    context := .object [("kind", .string kind), ("id", id.toJson)]
    severity := .low }

/-- A violation for an active product without the provider's id. -/
def unsyncedProduct (p : CatalogProduct) : List Violation :=
  if p.isActive && p.productId.isNone then [notSynced "product" p.id p.name] else []

/-- A violation for an active price without the provider's id. -/
def unsyncedPrice (s : Store) (p : CatalogPrice) : List Violation :=
  if p.isActive && p.priceId.isNone then
    match s.product? p.product with
    | some product => [notSynced "price" p.id (product.name ++ " " ++ p.currency)]
    | none => []
  else []

/-- What a check finds in a store. -/
def run (s : Store) : Check → List Violation
  | singleActivePrice => severalActivePrices s
  | subscriptionLinkedOnce => s.subscriptions.rows.flatMap (notLinkedOnce s)
  | subscriptionCustomerMatches => s.links.rows.flatMap (customerMismatch s)
  | subscriptionHasItems => s.subscriptions.rows.flatMap (withoutItems s)
  | activeCatalogSynced =>
    s.products.rows.flatMap unsyncedProduct ++ s.prices.rows.flatMap (unsyncedPrice s)

/-- The query of a check. -/
def ask (c : Check) : Transaction (List Violation) := do
  return run (← get) c

end Check

/-- Run the check with a name. -/
def runNamed (name : String) : Call Store (List Violation) :=
  match Check.byName? name with
  | some c => commit c.ask
  | none => throw (.invalidInput (.unknownCheck name))

/-- Run the checks with the given names, one after the other. -/
def runEach : List String → Call Store (List Violation)
  | [] => pure []
  | name :: names => do
    let found ← runNamed name
    let others ← runEach names
    pure (found ++ others)

/-- What all checks together find. -/
structure Report where
  /-- How many checks were run. -/
  checksRun : Nat
  /-- How many found nothing. -/
  checksPassed : Nat
  /-- How many found something. -/
  checksFailed : Nat
  /-- What they found, check by check. -/
  violations : List Violation
  /-- None found anything. -/
  healthy : Bool

/-- The report on what the checks have found. A check has failed if a violation carries its name. -/
def Report.of (violations : List Violation) : Report :=
  let failed := (violations.map (·.invariant)).eraseDups.length
  { checksRun := Check.all.length
    checksPassed := Check.all.length - failed
    checksFailed := failed
    violations
    healthy := violations.isEmpty }

/-- Run all checks. -/
def runAll : Call Store Report := do
  let violations ← runEach (Check.all.map Check.name)
  pure (.of violations)

end OrgBilling.Audit
