import OrgBilling.Store.Index

/-!
# Organizations in the database

Organizations have a name that can stand in an address, and no two of them hold the same customer.
Subscriptions refer to the customer of their organization, so a new customer of an organization is
carried over to its subscriptions.
-/

namespace OrgBilling.Store

open Transaction

/-- The index that keeps the customers of organizations apart. -/
def customerIndex : String := "organizations_customer_id_key"

/-- The index that keeps the subscriptions of a customer apart. -/
def subscriptionIndex : String := "_subscription_customer_subscription_uc"

/-- What an organization is made from. Times are counted in seconds. -/
structure NewOrganization where
  /-- The name in addresses. -/
  name : String
  /-- The name shown to people. -/
  displayName : String
  /-- The name of its kind. -/
  orgtype : String
  /-- It is in use. -/
  isActive : Bool
  /-- It has been approved or rejected. -/
  isApproved : Option Bool
  /-- The customer that it holds. -/
  customerId : Option String
  /-- When it is made. -/
  created : Int

/-- A letter or digit of an organization's name. Letters may be capital or small. -/
def isNameEnd (c : Char) : Bool :=
  ('a' ≤ c && c ≤ 'z') || ('A' ≤ c && c ≤ 'Z') || ('0' ≤ c && c ≤ '9')

/-- A character inside an organization's name. -/
def isNameInner (c : Char) : Bool :=
  isNameEnd c || c == '.' || c == '_' || c == '-'

/-- Names start and end with a letter or a digit; between them points, hyphens and underscores may
stand too. -/
def isValidName (name : String) : Bool :=
  let cs := name.toList
  cs.head?.any isNameEnd && cs.getLast?.any isNameEnd && cs.all isNameInner

/-- An organization holds a customer. -/
def holds (customer : String) (o : Organization) : Bool :=
  o.customerId == some customer

/-- The organization with an id. -/
def organization? (id : Uuid) (s : Store) : Option Organization :=
  s.organizations.rows.find? (·.id == id)

/-- The organization that holds a customer. -/
def holder? (customer : String) (s : Store) : Option Organization :=
  s.organizations.rows.find? (holds customer)

/-- Put an organization in. -/
def insertOrganization (n : NewOrganization) : Transaction Uuid := do
  requireTexts (n.name :: n.displayName :: n.orgtype :: n.customerId.toList)
  let kind ← fit 32 n.orgtype
  require (isValidName n.name) (.checkViolated "organizations" "organizations_valid_name")
  match OrganizationType.byName.lookup kind with
  | none => fail (.checkViolated "organizations" "organizations_valid_orgtype")
  | some orgtype =>
    let s ← get
    n.customerId.forM fun c => do
      require (s.holder? c).isNone (.duplicateKey customerIndex)
      requireIndexable customerIndex [c]
    let row (id : Uuid) : Organization :=
      { id
        name := n.name
        displayName := n.displayName
        orgtype
        isActive := n.isActive
        isApproved := n.isApproved
        dateApproved := none
        customerId := n.customerId
        created := n.created }
    set { s with organizations := s.organizations.insert organizationTag row }
    pure (s.organizations.nextRow organizationTag row).id

/-- Read the organization with an id. -/
def getOrganization (id : Uuid) : Transaction (Option Organization) := do
  return (← get).organization? id

/-- Read the organization that holds a customer. -/
def getOrganizationByCustomer (customer : String) : Transaction (Option Organization) := do
  requireTexts [customer]
  return (← get).holder? customer

/-- Read the customer of an organization that has to exist. -/
def lockOrganizationCustomer (id : Uuid) : Transaction (Option String) := do
  match (← get).organization? id with
  | some o => pure o.customerId
  | none => throw (.notFound (.organizationRow id))

/-- The subscriptions after the customer `old` became the customer `new`. -/
def renameCustomer (old new : String) (t : Table Subscription) : Table Subscription :=
  t.map fun sub => if sub.customerId = old then { sub with customerId := new } else sub

/-- No two subscriptions have the same customer and provider id. -/
def hasUniqueSubscriptions (t : Table Subscription) : Bool :=
  decide (t.rows.map fun sub => (sub.customerId, sub.subscriptionId)).Nodup

/-- Let the organization with an id hold a customer, and count the rows. Its subscriptions move on to
the new customer with it. -/
def holdCustomer (id : Uuid) (customer : String) : Transaction Nat := do
  requireTexts [customer]
  let s ← get
  match s.organization? id with
  | none => pure 0
  | some o =>
    require (s.organizations.rows.all fun p => p.id == id || !holds customer p)
      (.duplicateKey customerIndex)
    requireIndexable customerIndex [customer]
    let subscriptions :=
      match o.customerId with
      | some old => renameCustomer old customer s.subscriptions
      | none => s.subscriptions
    require (hasUniqueSubscriptions subscriptions) (.duplicateKey subscriptionIndex)
    (subscriptions.rows.filter (·.customerId == customer)).forM fun sub =>
      requireIndexable subscriptionIndex [customer, sub.subscriptionId]
    set
      { s with
        organizations :=
          s.organizations.map fun p =>
            if p.id = id then { p with customerId := some customer } else p
        subscriptions }
    pure 1

/-- Take a customer from the organization that holds it. Subscriptions that still refer to the
customer forbid this, since each needs one. -/
def releaseCustomer (customer : String) : Transaction Unit := do
  requireTexts [customer]
  let s ← get
  require
    ((s.holder? customer).isNone || !s.subscriptions.rows.any (·.customerId == customer))
    (.emptied "subscriptions" "customer_id")
  set
    { s with
      organizations :=
        s.organizations.map fun o =>
          if holds customer o then { o with customerId := none } else o }

end OrgBilling.Store
