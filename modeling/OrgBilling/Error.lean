import OrgBilling.Text.Quoted
import OrgBilling.Uuid

/-!
# What can go wrong

Every operation of the library that fails does so with a `BillingError`: a kind, and under it the
cause. The causes are values, so that a statement about a failure can name the row, the constraint
or the field it is about; their wording is in one place, the `message` functions of this module.

Each kind has a constructor `other` for a text that comes from outside.
-/

namespace OrgBilling

/-- A failure of the database. -/
inductive DatabaseError where
  /-- A row with the same key exists. -/
  | duplicateKey (constraint : String)
  /-- A reference to a row that does not exist. -/
  | danglingReference (table constraint : String)
  /-- A column holds a value that its table does not allow. -/
  | checkViolated (table constraint : String)
  /-- A column that has to be filled would be emptied. -/
  | emptied (table column : String)
  /-- A text with a zero character was to be stored or compared. -/
  | zeroCharacter
  /-- A text is longer than its column. -/
  | textTooLong (limit : Nat)
  /-- A row is larger than any index allows. -/
  | indexRowTooLong (size limit : Nat)
  /-- A row is larger than a page of its index allows. -/
  | indexKeyTooLong (size limit : Nat) (index : String)
  /-- A page with a negative number of rows was asked for. -/
  | negativeLimit
  /-- A page that starts before the first row was asked for. -/
  | negativeOffset
  /-- A row that has to be there was not found. -/
  | noRow
  /-- The connection pool has been shut. -/
  | poolClosed
  /-- Any other failure, in its own words. -/
  | other (text : String)
  deriving DecidableEq

/-- The wording of a failure of the database. The ones that the server reports say so. -/
def DatabaseError.message : DatabaseError → String
  | duplicateKey c => reported s!"duplicate key value violates unique constraint \"{c}\""
  | danglingReference t c =>
    reported s!"insert or update on table \"{t}\" violates foreign key constraint \"{c}\""
  | checkViolated t c =>
    reported s!"new row for relation \"{t}\" violates check constraint \"{c}\""
  | emptied t c =>
    reported s!"null value in column \"{c}\" of relation \"{t}\" violates not-null constraint"
  | zeroCharacter => reported "invalid byte sequence for encoding \"UTF8\": 0x00"
  | textTooLong n => reported s!"value too long for type character varying({n})"
  | indexRowTooLong n limit =>
    reported s!"index row requires {n} bytes, maximum size is {limit}"
  | indexKeyTooLong n limit index =>
    reported s!"index row size {n} exceeds btree version 4 maximum {limit} for index \"{index}\""
  | negativeLimit => reported "LIMIT must not be negative"
  | negativeOffset => reported "OFFSET must not be negative"
  | noRow => "no rows returned by a query that expected to return at least one row"
  | poolClosed => "attempted to acquire a connection on a closed pool"
  | other text => text
where
  /-- A failure that the server reports. -/
  reported (text : String) : String := "error returned from database: " ++ text

/-- A failure of a request to the payment provider. -/
inductive ProviderError where
  /-- No connection could be made. -/
  | unreachable (reason : String)
  /-- The answer is not what the request expects. -/
  | undecodable
  /-- The provider answered with an error of the given type. -/
  | reported (type : String) (status : Nat) (explanation : Option String)
  /-- Any other failure, in its own words. -/
  | other (text : String)
  deriving DecidableEq

/-- The wording of a failed request. -/
def ProviderError.message : ProviderError → String
  | unreachable reason => "error communicating with stripe: error trying to connect: " ++ reason
  | undecodable => "error serializing or deserializing a request"
  | reported type status explanation =>
    s!"error reported by stripe: {type} ({status})" ++
      match explanation with
      | some text => " with message: " ++ Text.quoted text
      | none => ""
  | other text => text

/-- Something that was asked for and does not exist. -/
inductive Missing where
  /-- A product of the provider. -/
  | product (id : String)
  /-- A price of the provider. -/
  | price (id : String)
  /-- A checkout session. -/
  | checkoutSession (id : String)
  /-- The customer behind a subscription. -/
  | subscriptionCustomer (subscription : String)
  /-- A row of the subscriptions. -/
  | subscriptionRow (id : Uuid)
  /-- A row of the catalog's products. -/
  | productRow (id : Uuid)
  /-- A row of the catalog's prices. -/
  | priceRow (id : Uuid)
  /-- A row of the organizations. -/
  | organizationRow (id : Uuid)
  /-- An organization that holds a customer. -/
  | customerHolder (customer : String)
  /-- Anything else, in its own words. -/
  | other (text : String)
  deriving DecidableEq

/-- The wording of what is missing. -/
def Missing.message : Missing → String
  | product id => "Product " ++ id
  | price id => "Price " ++ id
  | checkoutSession id => "Checkout session " ++ id
  | subscriptionCustomer s => "Customer for subscription " ++ s
  | subscriptionRow id => "Subscription " ++ id.text
  | productRow id => "Subscription product " ++ id.text
  | priceRow id => "Subscription price " ++ id.text
  | organizationRow id => "Organization " ++ id.text
  | customerHolder c => "Organization with customer " ++ c
  | other text => text

/-- Input that an operation does not accept. -/
inductive InvalidInput where
  /-- A price was to be pushed before its product. -/
  | unsyncedProduct (id : Uuid)
  /-- A provider subscription id that several rows have. -/
  | ambiguousSubscription (id : String)
  /-- A term that several products match. -/
  | ambiguousProduct (term : String)
  /-- A provider price id that several rows have. -/
  | ambiguousPrice (id : String)
  /-- A name that no check has. -/
  | unknownCheck (name : String)
  /-- Anything else, in its own words. -/
  | other (text : String)
  deriving DecidableEq

/-- The wording of what is wrong with the input. -/
def InvalidInput.message : InvalidInput → String
  | unsyncedProduct id => s!"Product {id.text} must be synced before its prices"
  | ambiguousSubscription id => "More than one row matches subscription_id " ++ id
  | ambiguousProduct term => "More than one row matches product " ++ term
  | ambiguousPrice id => "More than one row matches price " ++ id
  | unknownCheck name => s!"Unknown invariant check '{name}'"
  | other text => text

/-- A webhook event of a known type that cannot be acted on. -/
inductive EventProblem where
  /-- A field is missing, empty or no text. -/
  | missingField (type field : String)
  /-- A subscription status that nobody knows. -/
  | unknownStatus (type status : String)
  /-- A finished checkout that is not complete. -/
  | checkoutNotComplete (status : String)
  /-- A deleted subscription that is not canceled. -/
  | deletedNotCanceled (status : String)
  /-- Anything else, in its own words. -/
  | other (text : String)
  deriving DecidableEq

/-- The wording of what is wrong with an event. -/
def EventProblem.message : EventProblem → String
  | missingField type field => s!"{type} event is missing '{field}'"
  | unknownStatus type status => s!"{type} event has unknown subscription status '{status}'"
  | checkoutNotComplete status => s!"Checkout session status '{status}' is not complete"
  | deletedNotCanceled status => s!"Deleted subscription has status '{status}'"
  | other text => text

/-- A setting that is missing or wrong. -/
inductive ConfigProblem where
  /-- A variable that has to be set is not. -/
  | unset (key : String)
  /-- No backend of this name exists. -/
  | unknownBackend (name : String)
  /-- The local backend has no base URL. -/
  | baseUrlRequired
  /-- The configured API version is not the client's. -/
  | versionMismatch (configured client : String)
  /-- Anything else, in its own words. -/
  | other (text : String)
  deriving DecidableEq

/-- The wording of what is wrong with the settings. -/
def ConfigProblem.message : ConfigProblem → String
  | unset key => key ++ " must be set"
  | unknownBackend name => s!"No billing service implemented for backend '{name}'"
  | baseUrlRequired => "SUBSCRIPTION_API_BASE is required for the local billing backend"
  | versionMismatch configured client =>
    s!"SUBSCRIPTION_API_VERSION {configured} does not match the client API version {client}"
  | other text => text

/-- A state of the data that no operation can go on from. -/
inductive InternalProblem where
  /-- There is no single price to put a new subscription on. -/
  | severalActivePrices
  /-- Anything else, in its own words. -/
  | other (text : String)
  deriving DecidableEq

/-- The wording of such a state. -/
def InternalProblem.message : InternalProblem → String
  | severalActivePrices => "More than one active subscription price"
  | other text => text

/-- A failed billing operation. -/
inductive BillingError where
  /-- The database failed. -/
  | database (cause : DatabaseError)
  /-- A request to the payment provider failed. -/
  | provider (cause : ProviderError)
  /-- A webhook delivery is not signed by the provider. -/
  | signatureInvalid
  /-- A webhook event cannot be acted on. -/
  | eventNotSupported (cause : EventProblem)
  /-- Something asked for does not exist. -/
  | notFound (what : Missing)
  /-- The input is not acceptable. -/
  | invalidInput (cause : InvalidInput)
  /-- The settings are wrong. -/
  | config (cause : ConfigProblem)
  /-- The data is in a state that should not occur. -/
  | internal (cause : InternalProblem)
  deriving DecidableEq

/-- The full wording of an error. -/
def BillingError.message : BillingError → String
  | database cause => "Database error: " ++ cause.message
  | provider cause => "Stripe API error: " ++ cause.message
  | signatureInvalid => "Invalid webhook signature"
  | eventNotSupported cause => "Webhook event not supported: " ++ cause.message
  | notFound what => "Not found: " ++ what.message
  | invalidInput cause => "Invalid input: " ++ cause.message
  | config cause => "Configuration error: " ++ cause.message
  | internal cause => "Internal error: " ++ cause.message

/-- A name that stands for nothing where one of a fixed list is expected. -/
structure UnknownName where
  /-- What the name should have been. -/
  expected : String
  /-- The name as it was given. -/
  given : String
  deriving DecidableEq

/-- The wording of an unknown name. -/
def UnknownName.message (e : UnknownName) : String :=
  s!"Invalid {e.expected}: {e.given}"

end OrgBilling
