import OrgBilling.Text.Blank

/-!
# Looking settings up

Settings come from named variables. A variable that holds nothing but white space counts as not set.
-/

namespace OrgBilling.Config

/-- Where variables are looked up. -/
abbrev Variables := String → Option String

/-- The value of a variable that is set. -/
def setting (vars : Variables) (key : String) : Option String :=
  (vars key).filter fun value => !Text.isAllBlank value

end OrgBilling.Config
