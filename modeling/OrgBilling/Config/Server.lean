import OrgBilling.Config.Lookup
import OrgBilling.Text.Split

/-!
# Settings of the server

Where the server listens, where its database is, and under which address people reach the
application. Addresses of the application are kept without the slashes at their end.
-/

namespace OrgBilling.Config

/-- What is wrong with the settings of the server. -/
inductive ServerProblem where
  /-- A variable that has to be set is not. -/
  | unset (key : String)
  /-- A variable has a value that means nothing. -/
  | invalid (key value : String)
  deriving DecidableEq

/-- The wording of what is wrong. -/
def ServerProblem.message : ServerProblem → String
  | unset key => key ++ " must be set"
  | invalid key value => s!"Invalid value for {key}: {value}"

/-- The settings of the server. -/
structure ServerSettings where
  /-- The address of the database. -/
  databaseUrl : String
  /-- The address to listen at. -/
  bindAddress : String
  /-- The address under which people reach the application. -/
  appBaseUrl : String
  /-- The origins that browsers may send requests from. -/
  allowedOrigins : List String
  /-- Bring the database's schema up to date when the server starts. -/
  runMigrations : Bool
  deriving DecidableEq

namespace ServerSettings

/-- A text without the slashes at its end. -/
def trimSlashes (cs : List Char) : List Char :=
  (cs.reverse.dropWhile (· == '/')).reverse

/-- A text in the small letters of the alphabet; other characters stay as they are. -/
def asciiLower (s : String) : String :=
  String.ofList (s.toList.map Char.toLower)

/-- The origins of a list with commas. -/
def readOrigins (list : String) : List String :=
  ((Text.splitAtEach ',' list.toList).map fun o => trimSlashes (Text.trimChars o)).filterMap
    fun o => if o.isEmpty then none else some (String.ofList o)

/-- A truth value; not set means true. -/
def readFlag (key : String) : Option String → Except ServerProblem Bool
  | none => .ok true
  | some v =>
    if asciiLower v = "true" ∨ v = "1" then .ok true
    else if asciiLower v = "false" ∨ v = "0" then .ok false
    else .error (.invalid key v)

/-- Read the settings from variables. -/
def read (vars : Variables) : Except ServerProblem ServerSettings := do
  match setting vars "DATABASE_URL" with
  | none => throw (.unset "DATABASE_URL")
  | some databaseUrl =>
    let base := (setting vars "APP_BASE_URL").getD "http://localhost:8080"
    let appBaseUrl := String.ofList (trimSlashes base.toList)
    let runMigrations ← readFlag "RUN_MIGRATIONS" (setting vars "RUN_MIGRATIONS")
    pure
      { databaseUrl
        bindAddress := (setting vars "BIND_ADDRESS").getD "0.0.0.0:8080"
        appBaseUrl
        allowedOrigins :=
          match setting vars "CORS_ALLOWED_ORIGINS" with
          | some list => readOrigins list
          | none => [appBaseUrl]
        runMigrations }

end ServerSettings

end OrgBilling.Config
