import OrgBilling.Error

/-!
# Subscription status

The states a subscription can be in, as the payment provider reports them. `parse_name` says that
every status is read back from its name, and `parse_eq_ok_iff` that nothing else is read.
-/

namespace OrgBilling

/-- The state of a subscription. -/
inductive SubscriptionStatus where
  /-- Paid and usable. -/
  | active
  /-- The last payment failed and is being retried. -/
  | pastDue
  /-- Payment has been given up on. -/
  | unpaid
  /-- Ended. -/
  | canceled
  /-- The first payment has not been made. -/
  | incomplete
  /-- The first payment was not made in time. -/
  | incompleteExpired
  /-- In a trial period. -/
  | trialing
  deriving DecidableEq, Inhabited

namespace SubscriptionStatus

/-- Every status, in the order in which they are listed. -/
def all : List SubscriptionStatus :=
  [active, pastDue, unpaid, canceled, incomplete, incompleteExpired, trialing]

/-- The name under which a status is stored and exchanged. -/
def name : SubscriptionStatus → String
  | active => "active"
  | pastDue => "past_due"
  | unpaid => "unpaid"
  | canceled => "canceled"
  | incomplete => "incomplete"
  | incompleteExpired => "incomplete_expired"
  | trialing => "trialing"

/-- The name that is shown to people. -/
def label : SubscriptionStatus → String
  | active => "Active"
  | pastDue => "Past Due"
  | unpaid => "Unpaid"
  | canceled => "Canceled"
  | incomplete => "Incomplete"
  | incompleteExpired => "Incomplete Expired"
  | trialing => "Trialing"

/-- Paid features are withheld unless the subscription is active or on trial. -/
def isRestricted (s : SubscriptionStatus) : Bool :=
  s != active && s != trialing

/-- The statuses by name. -/
def byName : List (String × SubscriptionStatus) :=
  all.map fun s => (s.name, s)

/-- The status with this name. -/
def parse (text : String) : Except UnknownName SubscriptionStatus :=
  match byName.lookup text with
  | some s => .ok s
  | none => .error ⟨"subscription status", text⟩

/-- A text is the name of a status. -/
def isName (text : String) : Bool :=
  (byName.lookup text).isSome

/-- A status as a JSON string. -/
def toJson (s : SubscriptionStatus) : Json :=
  .string s.name

/-- Read a status by its name. -/
def decode : Decoder SubscriptionStatus :=
  Decoder.named byName

theorem lookup_name (s : SubscriptionStatus) : byName.lookup s.name = some s := by
  cases s <;> decide

/-- A status is read back from its name. -/
theorem parse_name (s : SubscriptionStatus) : parse s.name = .ok s := by
  simp [parse, lookup_name]

/-- A status is read from its name only. -/
theorem parse_eq_ok_iff {text : String} {s : SubscriptionStatus} :
    parse text = .ok s ↔ text = s.name := by
  constructor
  · intro h
    have hl : byName.lookup text = some s := by
      unfold parse at h
      split at h <;> simp_all
    obtain ⟨before, after, hsplit, -⟩ := List.lookup_eq_some_iff.1 hl
    have hmem : (text, s) ∈ byName := by simp [hsplit]
    obtain ⟨t, -, ht⟩ := List.mem_map.1 hmem
    rw [← (Prod.mk.inj ht).2, (Prod.mk.inj ht).1]
  · rintro rfl
    exact parse_name s

end SubscriptionStatus

end OrgBilling
