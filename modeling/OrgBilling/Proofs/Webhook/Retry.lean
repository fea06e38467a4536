import OrgBilling.Proofs.Webhook.Once
import OrgBilling.Proofs.Webhook.Wording

/-!
# Failed events are tried again

An attempt that fails is recorded with the wording of its error, and then the event can be claimed
again at once (`claims_of_failed`). This depends on the ledger being able to hold the wording. It
can, but for one kind of error: an event that is not supported because of its status is refused in
words that quote the status, and a status with a zero character cannot be stored (`QuotesZero`).
Recording such a failure fails too. The row of the event then stays as the claim has left it, and
the next deliveries count as duplicates of an attempt that is under way
(`duplicate_of_unrecorded`).
-/

namespace OrgBilling.Webhook

open Store Transaction

variable {e : Event} {err : BillingError} {now : Int} {s s₁ s₂ : Store}

/-! ### Errors that the ledger cannot hold -/

/-- What is wrong with the event is said by quoting a status that cannot be stored. -/
def QuotesZero (e : Event) (err : BillingError) : Prop :=
  ∃ status, isStorable status = false ∧
    (err = .eventNotSupported (.unknownStatus e.type status) ∨
      err = .eventNotSupported (.checkoutNotComplete status))

theorem isStorable_of_append {a b : String} (h : isStorable (a ++ b) = true) :
    isStorable a = true ∧ isStorable b = true := by
  simpa only [isStorable, String.toList_append, List.all_append, Bool.and_eq_true] using h

theorem QuotesZero.not_isStorable (h : QuotesZero e err) : isStorable err.message = false := by
  obtain ⟨status, hstatus, hquotes⟩ := h
  have quoted {before after : String} : isStorable (before ++ status ++ after) = false := by
    by_contra hm
    rw [Bool.not_eq_false] at hm
    rw [(isStorable_of_append (isStorable_of_append hm).1).2] at hstatus
    cases hstatus
  have worded {text : String} (htext : isStorable text = false) :
      isStorable ("Webhook event not supported: " ++ text) = false := by
    by_contra hm
    rw [Bool.not_eq_false] at hm
    rw [(isStorable_of_append hm).2] at htext
    cases htext
  rcases hquotes with rfl | rfl <;> exact worded quoted

/-- What can be wrong with an event whose type can be stored is said in words that can be stored
too, or by quoting a status. -/
theorem speaks_of_type (htype : isStorable e.type = true) :
    Action.Speaks e (fun _ => True) fun problem =>
      isStorable problem.message = true ∨ QuotesZero e (.eventNotSupported problem) where
  field _ _ _ := trivial
  missing _ hname := .inl (Action.isStorable_missingField htype hname)
  unknown status _ := by
    cases hstatus : isStorable status with
    | true => exact .inl (Action.isStorable_unknownStatus htype hstatus)
    | false => exact .inr ⟨status, hstatus, .inl rfl⟩
  notComplete status _ := by
    cases hstatus : isStorable status with
    | true => exact .inl (Action.isStorable_checkoutNotComplete hstatus)
    | false => exact .inr ⟨status, hstatus, .inr rfl⟩
  notCanceled status := .inl (Action.isStorable_deletedNotCanceled status)

/-- The ledger can hold why processing an event fails, unless that quotes a status it cannot hold. -/
theorem isStorable_of_not_quotesZero (htype : isStorable e.type = true)
    (failed : (process e).on s₁ = (.error err, s₂)) (h : ¬ QuotesZero e err) :
    isStorable err.message = true := by
  by_contra hm
  rw [Bool.not_eq_true] at hm
  have hread := Action.yields_ofEvent (speaks_of_type htype)
  rw [notSupported_of_not_isStorable failed hm] at hread
  obtain ⟨problem, rfl, hproblem | hquotes⟩ := hread
  · have hmessage : isStorable (BillingError.eventNotSupported problem).message = true :=
      isStorable_append (by decide) hproblem
    rw [hm] at hmessage
    cases hmessage
  · exact h hquotes

/-! ### The next delivery -/

/-- The row of the event after the claim says that an attempt is under way. -/
theorem row?_of_failed (claim : Commits (Ledger.claim now e.id e.type) s true s₁)
    (failed : (process e).on s₁ = (.error err, s₂)) :
    ∃ d, Ledger.row? e.id s₂ = some d ∧ d.state = .processing ∧ d.errorMessage = none ∧
      d.startedAt = now := by
  obtain ⟨d, hd, hstate, hmessage, hbegin, -⟩ := Ledger.row?_claim claim
  exact ⟨d, (row?_process e.id failed).trans hd, hstate, hmessage, hbegin⟩

/-- An event whose last attempt failed can be claimed. -/
theorem claims_of_failed {d : Delivery} (hid : isStorable e.id = true)
    (htype : isStorable e.type = true) (hd : Ledger.row? e.id s = some d) (hstate : d.state = .failed)
    (later : Int) : ∃ t, Commits (Ledger.claim later e.id e.type) s true t := by
  have hclaimable : Ledger.isClaimable later d = true := by simp [Ledger.isClaimable, hstate]
  exact ⟨_, commits_claim.2 ⟨hid, htype, .inr ⟨d, hd, .inl ⟨hclaimable, rfl, rfl⟩⟩⟩⟩

/-- A call that claims its event does not find a duplicate. -/
theorem not_duplicate_of_claim {t : Store} (claim : Commits (Ledger.claim now e.id e.type) s true t) :
    ((handle now e).on s).1 ≠ .ok .duplicate := by
  cases h : (handle now e).on s with | _ r s' => ?_
  intro hr
  cases hr
  cases Handling.of_on h with
  | duplicate claim' =>
    have : Except.ok (true, t) = .ok (false, s) := claim.symm.trans claim'
    cases this

/-- As long as an attempt counts as under way, every delivery of the event is a duplicate. -/
theorem duplicate_of_unrecorded {d : Delivery} (hid : isStorable e.id = true)
    (htype : isStorable e.type = true) (hd : Ledger.row? e.id s = some d)
    (hstate : d.state = .processing) {later : Int} (hlater : later ≤ d.startedAt + processingTimeout) :
    (handle later e).on s = (.ok .duplicate, s) := by
  have hfresh : ¬ d.startedAt < later - processingTimeout := by omega
  have hclaimable : Ledger.isClaimable later d = false := by
    simp [Ledger.isClaimable, hstate, hfresh]
  exact (Handling.duplicate
    (commits_claim.2 ⟨hid, htype, .inr ⟨d, hd, .inr ⟨hclaimable, rfl, rfl⟩⟩⟩)).on_eq

/-! ### Failed attempts -/

/-- A failed event is tried again. When an event has been claimed and processing it fails, the call
ends with that error, the ledger holds the wording of the error, and the next delivery of the event
is processed, at whatever time it comes. There is one exception: if the error quotes a status that
the ledger cannot hold, then the call ends with an error of the database, the ledger still says that
the event is being processed, and until `processingTimeout` has passed every delivery of the event
ends as a duplicate and changes nothing. -/
theorem retried_after_failure (claim : Commits (Ledger.claim now e.id e.type) s true s₁)
    (failed : (process e).on s₁ = (.error err, s₂)) :
    (¬ QuotesZero e err → ∃ s', (handle now e).on s = (.error err, s') ∧
      (∃ d, Ledger.row? e.id s' = some d ∧ d.state = .failed ∧ d.errorMessage = some err.message) ∧
      ∀ later, (∃ t, Commits (Ledger.claim later e.id e.type) s' true t) ∧
        ((handle later e).on s').1 ≠ .ok .duplicate) ∧
    (QuotesZero e err → (handle now e).on s = (.error (.database .zeroCharacter), s₂) ∧
      (∃ d, Ledger.row? e.id s₂ = some d ∧ d.state = .processing ∧ d.errorMessage = none) ∧
      ∀ later ≤ now + processingTimeout, (handle later e).on s₂ = (.ok .duplicate, s₂)) := by
  have hid : isStorable e.id = true := isStorable_of_claim claim
  have htype : isStorable e.type = true := (commits_claim.1 claim).2.1
  obtain ⟨d, hd, hstate, hmessage, hbegin⟩ := row?_of_failed claim failed
  constructor
  · intro hquotes
    have hstorable := isStorable_of_not_quotesZero htype failed hquotes
    have hrow : Ledger.row? e.id (Ledger.recorded e.id .failed (some err.message) s₂) =
        some { d with state := .failed, errorMessage := some err.message } := by
      rw [Ledger.row?_recorded, hd, Option.map_some]
    refine ⟨_, (Handling.failed claim failed hstorable).on_eq, ⟨_, hrow, rfl, rfl⟩, fun later => ?_⟩
    obtain ⟨t, again⟩ := claims_of_failed hid htype hrow rfl later
    exact ⟨⟨t, again⟩, not_duplicate_of_claim again⟩
  · intro hquotes
    refine ⟨(Handling.unrecorded claim failed hquotes.not_isStorable).on_eq,
      ⟨d, hd, hstate, hmessage⟩, fun later hlater => ?_⟩
    exact duplicate_of_unrecorded hid htype hd hstate (by rwa [hbegin])

/-- The update of a subscription to a status. -/
def updateTo (status : String) : Event :=
  ⟨"evt_1", subscriptionUpdated, 0, .object [("status", .string status), ("id", .string "sub_1")]⟩

/-- The database after the update has been claimed. -/
def claimedUpdate : Store :=
  { Store.empty with
    deliveries := [⟨.row 7 1, "evt_1", subscriptionUpdated, .processing, none, 0, 0⟩] }

theorem claim_updateTo (status : String) :
    Commits (Ledger.claim 0 (updateTo status).id (updateTo status).type) .empty true claimedUpdate :=
  commits_claim.2 ⟨(by decide : isStorable "evt_1" = true),
    (by decide : isStorable subscriptionUpdated = true),
    .inl ⟨rfl, (by decide : Index.refusal? Ledger.eventIndex ["evt_1"] = none), rfl, rfl⟩⟩

theorem process_updateTo_odd : (process (updateTo "odd")).on claimedUpdate =
    (.error (.eventNotSupported (.unknownStatus subscriptionUpdated "odd")), claimedUpdate) :=
  rfl

theorem process_updateTo_zero : (process (updateTo "\x00")).on claimedUpdate =
    (.error (.eventNotSupported (.unknownStatus subscriptionUpdated "\x00")), claimedUpdate) :=
  rfl

/-- An update to a status that nobody knows fails and is tried again. -/
theorem retried_after_failure_of_oddStatus :
    Commits (Ledger.claim 0 (updateTo "odd").id (updateTo "odd").type) .empty true claimedUpdate ∧
    (process (updateTo "odd")).on claimedUpdate =
      (.error (.eventNotSupported (.unknownStatus subscriptionUpdated "odd")), claimedUpdate) ∧
    ∃ s', (handle 0 (updateTo "odd")).on .empty =
        (.error (.eventNotSupported (.unknownStatus subscriptionUpdated "odd")), s') ∧
      ((handle 1 (updateTo "odd")).on s').1 ≠ .ok .duplicate := by
  refine ⟨claim_updateTo "odd", process_updateTo_odd, ?_⟩
  have hquotes : ¬ QuotesZero (updateTo "odd")
      (.eventNotSupported (.unknownStatus subscriptionUpdated "odd")) := by
    rintro ⟨status, hstatus, h | h⟩
    · cases h
      exact absurd hstatus (by decide)
    · cases h
  obtain ⟨s', hcall, -, hlater⟩ :=
    (retried_after_failure (claim_updateTo "odd") process_updateTo_odd).1 hquotes
  exact ⟨s', hcall, (hlater 1).2⟩

/-- Not every failed event is recorded and tried again: the status of this one has a zero
character. -/
theorem not_retried_after_failure_of_zeroStatus :
    ¬ ∀ (s s₁ s₂ : Store) (now : Int) (e : Event) (err : BillingError),
      Commits (Ledger.claim now e.id e.type) s true s₁ → (process e).on s₁ = (.error err, s₂) →
      ∃ s', (handle now e).on s = (.error err, s') ∧
        (∃ d, Ledger.row? e.id s' = some d ∧ d.state = .failed ∧
          d.errorMessage = some err.message) ∧
        ((handle now e).on s').1 ≠ .ok .duplicate := by
  intro h
  obtain ⟨s', hcall, -, -⟩ :=
    h _ _ _ _ _ _ (claim_updateTo "\x00") process_updateTo_zero
  have hquotes : QuotesZero (updateTo "\x00")
      (.eventNotSupported (.unknownStatus subscriptionUpdated "\x00")) :=
    ⟨"\x00", by decide, .inl rfl⟩
  have hzero : isStorable
      (BillingError.eventNotSupported (.unknownStatus subscriptionUpdated "\x00")).message = false :=
    hquotes.not_isStorable
  rw [(Handling.unrecorded (claim_updateTo "\x00") process_updateTo_zero hzero).on_eq] at hcall
  cases hcall

end OrgBilling.Webhook
