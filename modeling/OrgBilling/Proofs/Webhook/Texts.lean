import OrgBilling.Proofs.Transaction
import OrgBilling.Webhook.Action

/-!
# Events whose texts can be stored

An event is plain if the texts that it says anything with can be stored (`Event.IsPlain`). Then the
texts of the action that it asks for can be stored (`Action.isPlain_of_ofEvent`), and so can the
wording of what goes wrong with it (`Action.isRefusal_of_ofEvent`). The only reason to refuse any
event is that it is not supported (`Action.notSupported_of_ofEvent`).
-/

namespace OrgBilling

open Transaction

/-! ### Texts that can be stored -/

theorem isStorable_append {a b : String} (ha : isStorable a = true) (hb : isStorable b = true) :
    isStorable (a ++ b) = true := by
  simp only [isStorable, String.toList_append, List.all_append, Bool.and_eq_true] at ha hb ⊢
  exact ⟨ha, hb⟩

theorem isStorable_repr (n : Nat) : isStorable n.repr = true := by
  simp only [isStorable, List.all_eq_true]
  intro c hc
  have hdigit : c.isDigit := by
    refine Nat.isDigit_of_mem_toDigits (b := 10) (n := n) (by decide) (by decide) ?_
    simpa [Nat.repr] using hc
  have : 48 ≤ c.toNat := (Char.isDigit_iff_toNat.1 hdigit).1
  simp only [bne_iff_ne]
  omega

theorem isStorable_reported {text : String} (h : isStorable text = true) :
    isStorable ("Database error: " ++ DatabaseError.message.reported text) = true :=
  isStorable_append (by decide) (isStorable_append (by decide) h)

theorem isStorable_indexRowTooLong (size limit : Nat) :
    isStorable (BillingError.database (.indexRowTooLong size limit)).message = true := by
  refine isStorable_reported ?_
  refine isStorable_append (isStorable_append (isStorable_append ?_ (isStorable_repr size)) ?_)
    (isStorable_repr limit)
  all_goals decide

theorem isStorable_indexKeyTooLong (size limit : Nat) {index : String}
    (h : isStorable index = true) :
    isStorable (BillingError.database (.indexKeyTooLong size limit index)).message = true := by
  refine isStorable_reported ?_
  refine isStorable_append (isStorable_append (isStorable_append (isStorable_append
    (isStorable_append (isStorable_append ?_ (isStorable_repr size)) ?_) (isStorable_repr limit)) ?_)
    h) ?_
  all_goals decide

/-- The texts that a failure of the database quotes. -/
def DatabaseError.quoted : DatabaseError → List String
  | duplicateKey c => [c]
  | danglingReference t c | checkViolated t c | emptied t c => [t, c]
  | indexKeyTooLong _ _ index => [index]
  | other text => [text]
  | zeroCharacter | textTooLong _ | indexRowTooLong _ _ | negativeLimit | negativeOffset | noRow
  | poolClosed => []

/-- The ledger can hold a failure of the database if it can hold what the failure quotes. -/
theorem isStorable_database {cause : DatabaseError} (h : cause.quoted.all isStorable = true) :
    isStorable (BillingError.database cause).message = true := by
  have one {a c x : String} (ha : isStorable a = true) (hx : isStorable x = true)
      (hc : isStorable c = true) : isStorable (a ++ x ++ c) = true :=
    isStorable_append (isStorable_append ha hx) hc
  have two {a b c x y : String} (ha : isStorable a = true) (hx : isStorable x = true)
      (hb : isStorable b = true) (hy : isStorable y = true) (hc : isStorable c = true) :
      isStorable (a ++ x ++ b ++ y ++ c) = true :=
    one (one ha hx hb) hy hc
  simp only [DatabaseError.quoted, List.all_eq_true] at h
  cases cause with
  | duplicateKey c =>
    exact isStorable_reported (one (by decide) (h c (by simp)) (by decide))
  | danglingReference t c =>
    exact isStorable_reported
      (two (by decide) (h t (by simp)) (by decide) (h c (by simp)) (by decide))
  | checkViolated t c =>
    exact isStorable_reported
      (two (by decide) (h t (by simp)) (by decide) (h c (by simp)) (by decide))
  | emptied t c =>
    exact isStorable_reported
      (two (by decide) (h c (by simp)) (by decide) (h t (by simp)) (by decide))
  | textTooLong n => exact isStorable_reported (one (by decide) (isStorable_repr n) (by decide))
  | indexRowTooLong n limit => exact isStorable_indexRowTooLong n limit
  | indexKeyTooLong n limit index => exact isStorable_indexKeyTooLong n limit (h index (by simp))
  | other text => exact isStorable_append (by decide) (h text (by simp))
  | zeroCharacter | negativeLimit | negativeOffset => exact isStorable_reported (by decide)
  | noRow | poolClosed => exact isStorable_append (by decide) (by decide)

/-- What an index says when it refuses a row quotes the name of the index at most. -/
theorem quoted_refusal {index : String} {texts : List String} {cause : DatabaseError}
    (hindex : isStorable index = true) (h : Store.Index.refusal? index texts = some cause) :
    cause.quoted.all isStorable = true := by
  simp only [Store.Index.refusal?] at h
  split at h
  · cases h
    rfl
  · split at h
    · cases h
      simpa [DatabaseError.quoted] using hindex
    · cases h

/-- The ledger can hold why an index refuses a row. -/
theorem isStorable_refusal {index : String} {texts : List String} {cause : DatabaseError}
    (hindex : isStorable index = true) (h : Store.Index.refusal? index texts = some cause) :
    isStorable (BillingError.database cause).message = true :=
  isStorable_database (quoted_refusal hindex h)

theorem isStorable_customerHolder {customer : String} (h : isStorable customer = true) :
    isStorable (BillingError.notFound (.customerHolder customer)).message = true :=
  isStorable_append (by decide) (isStorable_append (by decide) h)

namespace Webhook

/-! ### Events -/

/-- The texts of the event that it says anything with can be stored. -/
structure Event.IsPlain (e : Event) : Prop where
  id : isStorable e.id = true
  type : isStorable e.type = true
  field : ∀ name text, (e.object.get? name).bind Json.asString? = some text → isStorable text = true

/-- The texts of the action can be stored. -/
def Action.IsPlain : Action → Prop
  | completeCheckout customer subscription =>
    isStorable customer = true ∧ isStorable subscription = true
  | updateStatus subscription _ => isStorable subscription = true
  | cancelSubscription subscription => isStorable subscription = true
  | deleteCustomer customer => isStorable customer = true
  | ignore _ => True

/-- The texts of an action. -/
def Action.texts : Action → List String
  | completeCheckout customer subscription => [customer, subscription]
  | updateStatus subscription _ => [subscription]
  | cancelSubscription subscription => [subscription]
  | deleteCustomer customer => [customer]
  | ignore _ => []

theorem Action.isPlain_of_texts {a : Action} (h : ∀ text ∈ a.texts, isStorable text = true) :
    a.IsPlain := by
  cases a with
  | completeCheckout customer subscription => exact ⟨h _ (by simp [texts]), h _ (by simp [texts])⟩
  | updateStatus subscription _ => exact h _ (by simp [texts])
  | cancelSubscription subscription => exact h _ (by simp [texts])
  | deleteCustomer customer => exact h _ (by simp [texts])
  | ignore _ => trivial

/-! ### Reading events -/

namespace Action

/-- Reading an event gives something with `p`, or refuses the event for a problem with `q`. -/
def Yields {α : Type} (p : α → Prop) (q : EventProblem → Prop) : Except BillingError α → Prop
  | .ok a => p a
  | .error err => ∃ problem, err = .eventNotSupported problem ∧ q problem

theorem Yields.bind {α β : Type} {p : α → Prop} {p' : β → Prop} {q : EventProblem → Prop}
    {r : Except BillingError α} {f : α → Except BillingError β} (hr : Yields p q r)
    (hf : ∀ a, p a → Yields p' q (f a)) : Yields p' q (r >>= f) := by
  cases r with
  | ok a => exact hf a hr
  | error err => exact hr

/-- The fields that are read. -/
def fields : List String := ["status", "customer", "subscription", "id"]

/-- The texts of the event have `t`, and so whatever can be wrong with it has `q`. -/
structure Speaks (e : Event) (t : String → Prop) (q : EventProblem → Prop) : Prop where
  field : ∀ name text, (e.object.get? name).bind Json.asString? = some text → t text
  missing : ∀ name ∈ fields, q (.missingField e.type name)
  unknown : ∀ status, t status → q (.unknownStatus e.type status)
  notComplete : ∀ status, t status → q (.checkoutNotComplete status)
  notCanceled : ∀ status : SubscriptionStatus, q (.deletedNotCanceled status.name)

variable {e : Event} {t : String → Prop} {q : EventProblem → Prop}

theorem yields_requiredText (h : Speaks e t q) {name : String} (hname : name ∈ fields) :
    Yields t q (requiredText e name) := by
  unfold requiredText
  cases htext : (e.object.get? name).bind Json.asString? with
  | none => exact ⟨_, rfl, h.missing name hname⟩
  | some text =>
    dsimp only
    split
    · exact ⟨_, rfl, h.missing name hname⟩
    · exact h.field name text htext

theorem yields_requiredStatus (h : Speaks e t q) : Yields (fun _ => True) q (requiredStatus e) := by
  refine (yields_requiredText h (by decide)).bind fun name hname => ?_
  cases SubscriptionStatus.parse name with
  | ok status => trivial
  | error _ => exact ⟨_, rfl, h.unknown name hname⟩

theorem yields_ofEvent (h : Speaks e t q) :
    Yields (fun a => ∀ text ∈ a.texts, t text) q (ofEvent e) := by
  unfold ofEvent
  split
  · refine (yields_requiredText h (by decide)).bind fun status hstatus => ?_
    split
    · exact ⟨_, rfl, h.notComplete status hstatus⟩
    · exact (yields_requiredText h (by decide)).bind fun customer hcustomer =>
        (yields_requiredText h (by decide)).bind fun subscription hsubscription =>
          List.forall_mem_cons.2 ⟨hcustomer, List.forall_mem_singleton.2 hsubscription⟩
  · split
    · exact (yields_requiredStatus h).bind fun _ _ =>
        (yields_requiredText h (by decide)).bind fun _ hid => List.forall_mem_singleton.2 hid
    · split
      · refine (yields_requiredStatus h).bind fun status _ => ?_
        split
        · exact ⟨_, rfl, h.notCanceled status⟩
        · exact (yields_requiredText h (by decide)).bind fun _ hid =>
            List.forall_mem_singleton.2 hid
      · split
        · exact (yields_requiredText h (by decide)).bind fun _ hid =>
            List.forall_mem_singleton.2 hid
        · exact List.forall_mem_nil _

/-- The only reason to refuse an event is that it is not supported. -/
theorem notSupported_of_ofEvent {err : BillingError} (herr : ofEvent e = .error err) :
    ∃ problem, err = .eventNotSupported problem := by
  have h : Speaks e (fun _ => True) (fun _ => True) := by constructor <;> simp
  have := yields_ofEvent h
  rw [herr] at this
  exact this.imp fun _ h => h.1

/-! ### Plain events -/

/-- What is wrong with the event, in words that can be stored. -/
def IsRefusal (err : BillingError) : Prop :=
  ∃ problem, err = .eventNotSupported problem ∧ isStorable err.message = true

/-- A field is missing: the wording quotes the type of the event and the name of the field. -/
theorem isStorable_missingField {type name : String} (htype : isStorable type = true)
    (hname : name ∈ fields) : isStorable (EventProblem.missingField type name).message = true := by
  have hstorable : isStorable name = true := by
    revert name
    decide
  refine isStorable_append (isStorable_append (isStorable_append htype ?_) hstorable) ?_
  all_goals decide

theorem isStorable_unknownStatus {type status : String} (htype : isStorable type = true)
    (hstatus : isStorable status = true) :
    isStorable (EventProblem.unknownStatus type status).message = true := by
  refine isStorable_append (isStorable_append (isStorable_append htype ?_) hstatus) ?_
  all_goals decide

theorem isStorable_checkoutNotComplete {status : String} (hstatus : isStorable status = true) :
    isStorable (EventProblem.checkoutNotComplete status).message = true := by
  refine isStorable_append (isStorable_append ?_ hstatus) ?_
  all_goals decide

theorem isStorable_deletedNotCanceled (status : SubscriptionStatus) :
    isStorable (EventProblem.deletedNotCanceled status.name).message = true := by
  refine isStorable_append (isStorable_append ?_ ?_) ?_
  all_goals cases status <;> decide

/-- What can be wrong with a plain event is said in words that can be stored. -/
theorem speaks_of_isPlain (h : e.IsPlain) :
    Speaks e (isStorable · = true) (fun problem => isStorable problem.message = true) where
  field := h.field
  missing _ hname := isStorable_missingField h.type hname
  unknown _ hstatus := isStorable_unknownStatus h.type hstatus
  notComplete _ hstatus := isStorable_checkoutNotComplete hstatus
  notCanceled := isStorable_deletedNotCanceled

theorem isPlain_of_ofEvent (h : e.IsPlain) {a : Action} (ha : ofEvent e = .ok a) : a.IsPlain := by
  have := yields_ofEvent (speaks_of_isPlain h)
  rw [ha] at this
  exact isPlain_of_texts this

theorem isRefusal_of_ofEvent (h : e.IsPlain) {err : BillingError} (herr : ofEvent e = .error err) :
    IsRefusal err := by
  have := yields_ofEvent (speaks_of_isPlain h)
  rw [herr] at this
  obtain ⟨problem, rfl, hproblem⟩ := this
  exact ⟨problem, rfl, isStorable_append (by decide) hproblem⟩

end Action

end Webhook

end OrgBilling
