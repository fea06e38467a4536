import OrgBilling.Proofs.Webhook.Failures

/-!
# Failures that the ledger can hold

When processing an event fails, the ledger is to record why, and it can hold no text with a zero
character. Why an action fails can always be recorded, whatever the database holds: the wording of
the error quotes constraints, row ids, and texts of the action that the database has taken
(`failsPlainly_apply`). So it is only when an event is not supported that the ledger may not hold
why (`notSupported_of_not_isStorable`), and not if the event is plain (`isStorable_process`).

`FailsPlainly` says this of a transaction, and of a computation; it holds of one that is put
together from others if it holds of those.
-/

namespace OrgBilling

open Store Transaction

variable {α β : Type}

/-! ### Transactions -/

/-- Where the transaction fails, the ledger can hold why. -/
def Transaction.FailsPlainly (t : Transaction α) : Prop :=
  ∀ s e, t.run s = .error e → isStorable e.message = true

namespace Transaction.FailsPlainly

theorem of_database {t : Transaction α} (h : FailsInDatabase t) : FailsPlainly t := by
  intro s e he
  obtain ⟨cause, rfl, hquoted⟩ := h s e he
  exact isStorable_database hquoted

theorem pure (a : α) : FailsPlainly (pure a) := .of_database (.pure a)

theorem get : FailsPlainly get := .of_database .get

theorem set (s : Store) : FailsPlainly (set s) := .of_database (.set s)

theorem requireTexts (texts : List String) : FailsPlainly (requireTexts texts) :=
  .of_database (.requireTexts texts)

theorem throw {e : BillingError} (he : isStorable e.message = true) :
    FailsPlainly (throw e : Transaction α) := by
  intro s e' h
  cases h
  exact he

theorem bind {t : Transaction α} {f : α → Transaction β} (ht : FailsPlainly t)
    (hf : ∀ a, FailsPlainly (f a)) : FailsPlainly (t >>= f) := by
  intro s e h
  rcases run_bind_error h with h | ⟨a, u, -, h⟩
  · exact ht s e h
  · exact hf a u e h

/-- What comes after a check of texts can rely on it. -/
theorem requireTexts_bind {texts : List String} {f : Unit → Transaction α}
    (hf : (∀ text ∈ texts, isStorable text = true) → FailsPlainly (f ())) :
    FailsPlainly (Transaction.requireTexts texts >>= f) := by
  intro s e h
  rcases run_bind_error h with h | ⟨_, u, htexts, h⟩
  · exact requireTexts texts s e h
  · exact hf (commits_requireTexts.1 htexts).1 u e h

end Transaction.FailsPlainly

theorem isStorable_text (id : Uuid) : isStorable id.text = true := by
  have digit (n : Nat) : (Text.Hex.digit (n % 16)).toNat ≠ 0 := by
    have key : ∀ m : Fin 16, (Text.Hex.digit m.val).toNat ≠ 0 := by decide
    exact key ⟨n % 16, Nat.mod_lt n (by decide)⟩
  have digits (width n : Nat) : ∀ c ∈ Uuid.hexDigits width n, c.toNat ≠ 0 := by
    induction width generalizing n with
    | zero => simp [Uuid.hexDigits]
    | succ width ih =>
      intro c hc
      rcases List.mem_append.1 hc with hc | hc
      · exact ih (n / 16) c hc
      · rw [List.mem_singleton.1 hc]
        exact digit n
  have hyphen : '-'.toNat ≠ 0 := by decide
  simp only [isStorable, Uuid.text, String.toList_ofList, Uuid.chars, List.all_append,
    List.all_cons, Bool.and_eq_true, List.all_eq_true, bne_iff_ne]
  exact ⟨⟨⟨⟨digits _ _, hyphen, digits _ _⟩, hyphen, digits _ _⟩, hyphen, digits _ _⟩, hyphen,
    digits _ _⟩

open Transaction (FailsPlainly)

theorem failsPlainly_findSubscription (x : String) : FailsPlainly (findSubscription x) := by
  refine .requireTexts_bind fun htexts => .bind .get fun s => ?_
  have hx : isStorable x = true := htexts x (List.mem_singleton_self x)
  split
  · exact .pure _
  · exact .pure _
  · exact .throw (isStorable_append (by decide) (isStorable_append (by decide) hx))

theorem failsPlainly_setStatus (id : Uuid) (status : SubscriptionStatus) :
    FailsPlainly (Store.setStatus id status) := by
  have hmissing : isStorable (BillingError.notFound (.subscriptionRow id)).message = true :=
    isStorable_append (by decide) (isStorable_append (by decide) (isStorable_text id))
  refine .bind .get fun s => ?_
  dsimp only
  split
  · exact .bind (.throw hmissing) fun _ => .set _
  · exact .set _

theorem failsPlainly_getOrCreateDefaultPrice : FailsPlainly getOrCreateDefaultPrice := by
  refine .bind .get fun s => ?_
  split
  · exact .of_database (.bind (failsInDatabase_insertProduct _ _ _ _) fun _ =>
      failsInDatabase_insertPrice _ _ _ _ _ _)
  · exact .pure _
  · exact .throw (by decide)

theorem failsPlainly_insertLinkedSubscription (customer subscription : String) (price : Uuid) :
    FailsPlainly (insertLinkedSubscription customer subscription price) := by
  refine .requireTexts_bind fun htexts => .bind .get fun s => ?_
  split
  · exact .throw (isStorable_customerHolder (htexts customer (List.mem_cons_self ..)))
  · next organization _ =>
    exact .of_database (failsInDatabase_insertRows customer subscription price organization.id)

/-! ### Computations -/

/-- Where the computation fails, the ledger can hold why. -/
def Call.FailsPlainly (c : Call Store α) : Prop :=
  ∀ s e s', c.on s = (.error e, s') → isStorable e.message = true

namespace Call.FailsPlainly

theorem pure (a : α) : Call.FailsPlainly (pure a) := fun _ _ _ h => by cases h

theorem bind {c : Call Store α} {f : α → Call Store β} (hc : Call.FailsPlainly c)
    (hf : ∀ a, Call.FailsPlainly (f a)) : Call.FailsPlainly (c >>= f) := by
  intro s e s' h
  rcases Call.on_bind_error h with h | ⟨a, u, -, h⟩
  · exact hc s e s' h
  · exact hf a u e s' h

theorem commit {t : Transaction α} (ht : Transaction.FailsPlainly t) :
    Call.FailsPlainly (commit t) :=
  fun s e _ h => ht s e (run_of_commit_error h)

theorem of_eq_commit {c : Call Store α} {t : Transaction α} (hc : c = OrgBilling.commit t)
    (ht : Transaction.FailsPlainly t) : Call.FailsPlainly c :=
  hc ▸ commit ht

end Call.FailsPlainly

theorem failsPlainly_addSubscription (customer subscription : String) :
    Call.FailsPlainly (addSubscription customer subscription) := by
  rw [addSubscription_eq]
  exact .bind (.commit failsPlainly_getOrCreateDefaultPrice) fun _ =>
    .commit (failsPlainly_insertLinkedSubscription customer _ _)

namespace Webhook

theorem failsPlainly_setStatusIfKnown (x : String) (status : SubscriptionStatus) :
    Call.FailsPlainly (setStatusIfKnown x status) := by
  refine .bind (.commit (failsPlainly_findSubscription x)) fun found => ?_
  cases found with
  | some id => exact .of_eq_commit (Records.setStatus_eq id status) (failsPlainly_setStatus id status)
  | none => exact .pure _

/-- Where an action fails, the ledger can hold why. -/
theorem failsPlainly_apply (a : Action) : Call.FailsPlainly a.apply := by
  cases a with
  | completeCheckout customer subscription =>
    refine .bind (.commit (failsPlainly_findSubscription subscription)) fun found => ?_
    cases found with
    | some id =>
      exact .of_eq_commit (Records.setStatus_eq id .active) (failsPlainly_setStatus id .active)
    | none => exact (failsPlainly_addSubscription customer subscription).bind fun _ => .pure _
  | updateStatus subscription status => exact failsPlainly_setStatusIfKnown _ status
  | cancelSubscription subscription => exact failsPlainly_setStatusIfKnown _ .canceled
  | deleteCustomer customer =>
    have failsPlainly : Call.FailsPlainly (Records.deleteCustomer customer) :=
      .of_eq_commit (Records.deleteCustomer_eq customer)
        (.of_database (failsInDatabase_deleteCustomer customer))
    exact failsPlainly.bind fun _ => .pure _
  | ignore eventType => exact .pure _

/-- If the ledger cannot hold why processing an event fails, then the event is not supported. -/
theorem notSupported_of_not_isStorable {e : Event} {s s' : Store} {err : BillingError}
    (h : (process e).on s = (.error err, s')) (hm : isStorable err.message = false) :
    Action.ofEvent e = .error err := by
  unfold process at h
  cases ha : Action.ofEvent e with
  | ok a =>
    rw [ha] at h
    have : isStorable err.message = true :=
      Call.FailsPlainly.bind (failsPlainly_apply a) (fun _ => .pure _) s err s' h
    rw [hm] at this
    cases this
  | error err' =>
    rw [ha] at h
    cases h
    rfl

/-- Where processing a plain event fails, the ledger can hold why. -/
theorem isStorable_process {e : Event} (he : e.IsPlain) {s s' : Store} {err : BillingError}
    (h : (process e).on s = (.error err, s')) : isStorable err.message = true := by
  by_contra hm
  rw [Bool.not_eq_true] at hm
  obtain ⟨-, -, hmessage⟩ :=
    Action.isRefusal_of_ofEvent he (notSupported_of_not_isStorable h hm)
  rw [hm] at hmessage
  cases hmessage

end Webhook

end OrgBilling
