import OrgBilling.Error
import OrgBilling.Text.Lower

/-!
# Billing interval

How often a price recurs. People may write an interval in any letter case; it is stored and
exchanged in small letters, and only that form is read from JSON.
-/

namespace OrgBilling

/-- The interval at which a price is charged. -/
inductive Interval where
  /-- Every month. -/
  | month
  /-- Every year. -/
  | year
  /-- Every week. -/
  | week
  /-- Every day. -/
  | day
  deriving DecidableEq, Inhabited

namespace Interval

/-- The name under which an interval is stored and exchanged. -/
def name : Interval → String
  | month => "month"
  | year => "year"
  | week => "week"
  | day => "day"

/-- The intervals by name. -/
def byName : List (String × Interval) :=
  [month, year, week, day].map fun i => (i.name, i)

/-- The interval that a text in any letter case names. -/
def parse (text : String) : Except UnknownName Interval :=
  match byName.lookup (Text.lower text) with
  | some i => .ok i
  | none => .error ⟨"price interval", text⟩

/-- An interval as a JSON string. -/
def toJson (i : Interval) : Json :=
  .string i.name

/-- Read an interval by its name. -/
def decode : Decoder Interval :=
  Decoder.named byName

theorem lookup_name (i : Interval) : byName.lookup i.name = some i := by
  cases i <;> decide

end Interval

end OrgBilling
