import OrgBilling.Uuid

/-!
# Organizations

The tenants that hold subscriptions. An organization that has paid before, or is about to, holds a
customer of the payment provider.
-/

namespace OrgBilling

/-- What kind of organization it is. -/
inductive OrganizationType where
  /-- A community project. -/
  | community
  /-- A company. -/
  | company
  deriving DecidableEq, Inhabited

namespace OrganizationType

/-- The name under which a kind is stored and exchanged. -/
def name : OrganizationType → String
  | community => "Community"
  | company => "Company"

/-- The kinds by name. -/
def byName : List (String × OrganizationType) :=
  [community, company].map fun t => (t.name, t)

/-- A kind as a JSON string. -/
def toJson (t : OrganizationType) : Json :=
  .string t.name

/-- Read a kind by its name. -/
def decode : Decoder OrganizationType :=
  Decoder.named byName

end OrganizationType

/-- An organization. Times are counted in seconds from the start of 1970. -/
structure Organization where
  /-- The row's id. -/
  id : Uuid
  /-- The name in addresses. -/
  name : String
  /-- The name shown to people. -/
  displayName : String
  /-- What kind of organization it is. -/
  orgtype : OrganizationType
  /-- It is in use. -/
  isActive : Bool
  /-- It has been approved or rejected. -/
  isApproved : Option Bool
  /-- When it was approved. -/
  dateApproved : Option Int
  /-- The customer of the provider that it holds. -/
  customerId : Option String
  /-- When it was made. -/
  created : Int
  deriving DecidableEq

/-- The organization holds a customer. -/
def Organization.hasCustomer (o : Organization) : Bool :=
  o.customerId.isSome

end OrgBilling
