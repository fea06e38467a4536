import OrgBilling.Config.Lookup
import OrgBilling.Error
import OrgBilling.Text.Lower

/-!
# Settings of the payment provider

Which provider the application talks to, and with which keys. The live provider and a local endpoint
need a secret key and have to name the version of the interface that the client speaks; the provider
in memory needs neither. Every one needs the secret that webhook deliveries are signed with.
-/

namespace OrgBilling.Config

/-- The kind of payment provider that is used. -/
inductive Backend where
  /-- The live provider. -/
  | stripe
  /-- An endpoint at a configured address. -/
  | localEndpoint
  /-- A provider in memory. -/
  | mock
  deriving DecidableEq

namespace Backend

/-- The name of a backend. -/
def name : Backend → String
  | stripe => "stripe"
  | localEndpoint => "local"
  | mock => "mock"

/-- The name that a diagnostic text gives a backend. -/
def title : Backend → String
  | stripe => "Stripe"
  | localEndpoint => "Local"
  | mock => "Mock"

/-- The backend that a text names, in any letter case and with white space around it. -/
def parse (text : String) : Except BillingError Backend :=
  let name := Text.lower (Text.trim text)
  if name = "stripe" ∨ name = "live" then .ok stripe
  else if name = "local" then .ok localEndpoint
  else if name = "mock" then .ok mock
  else .error (.config (.unknownBackend name))

end Backend

/-- The version of the provider's interface that the client speaks. -/
def clientApiVersion : String := "2023-10-16"

/-- The settings of the payment provider. -/
structure ProviderSettings where
  /-- The kind of provider. -/
  backend : Backend
  /-- The address that takes the place of the live provider's. -/
  apiBase : Option String
  /-- The version of the interface. -/
  apiVersion : String
  /-- The key that authorizes requests. -/
  secretKey : String
  /-- The key that browsers are given. -/
  publishableKey : String
  /-- The secret that webhook deliveries are signed with. -/
  webhookSecret : String
  deriving DecidableEq

namespace ProviderSettings

/-- A setting that has to be there. -/
def require (vars : Variables) (key : String) : Except BillingError String :=
  match setting vars key with
  | some value => .ok value
  | none => .error (.config (.unset key))

/-- The version of the interface. The provider in memory does without the setting; the others have
to name the version that the client speaks. -/
def readVersion (vars : Variables) (backend : Backend) : Except BillingError String :=
  match setting vars "SUBSCRIPTION_API_VERSION" with
  | some version =>
    if backend ≠ .mock ∧ version ≠ clientApiVersion then
      .error (.config (.versionMismatch version clientApiVersion))
    else .ok version
  | none =>
    if backend = .mock then .ok clientApiVersion
    else .error (.config (.unset "SUBSCRIPTION_API_VERSION"))

/-- Read the settings from variables. -/
def read (vars : Variables) : Except BillingError ProviderSettings := do
  let backend ← Backend.parse (← require vars "BILLING_BACKEND")
  let apiBase := setting vars "SUBSCRIPTION_API_BASE"
  if backend = .localEndpoint ∧ apiBase = none then throw (.config .baseUrlRequired)
  let apiVersion ← readVersion vars backend
  let secretKey ←
    if backend = .mock then pure ((setting vars "SUBSCRIPTION_SECRET_KEY").getD "")
    else require vars "SUBSCRIPTION_SECRET_KEY"
  let webhookSecret ← require vars "SUBSCRIPTION_WEBHOOK_KEY"
  pure
    { backend
      apiBase
      apiVersion
      secretKey
      publishableKey := (setting vars "SUBSCRIPTION_PUBLISHABLE_KEY").getD ""
      webhookSecret }

/-- A text that shows the settings without their secrets. -/
def summary (s : ProviderSettings) : String :=
  let base :=
    match s.apiBase with
    | some url => "Some(" ++ Text.quoted url ++ ")"
    | none => "None"
  "StripeConfig \x7b backend: " ++ s.backend.title ++
    ", api_base: " ++ base ++
    ", api_version: " ++ Text.quoted s.apiVersion ++
    ", secret_key: \"[redacted]\"" ++
    ", publishable_key: " ++ Text.quoted s.publishableKey ++
    ", webhook_secret: \"[redacted]\" \x7d"

end ProviderSettings

end OrgBilling.Config
