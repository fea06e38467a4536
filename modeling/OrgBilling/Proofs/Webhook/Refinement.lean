import OrgBilling.Proofs.NewSubscription
import OrgBilling.Proofs.Webhook.Machine
import OrgBilling.Proofs.Webhook.Once
import OrgBilling.Proofs.Webhook.Texts

/-!
# The handler does what the machine does

The handler works on tables and in several transactions, the machine does not; but how a call ends
and what the machine sees of the store afterwards is what the machine says (`handle_matches`). This
holds of a store that is `Ready`, and a call leaves such a store behind, so it holds of any number
of calls one after another (`history_eq`), whatever operations have led to such a store
(`ready_of_reachable`). The machine has to know what an index refuses, since an event with a long id
fails for no other reason.
-/

namespace OrgBilling.Webhook

open Store Transaction

variable {s s' : Store}

/-- The tables besides the ledger are so that every action can be decided: there is not more than
one price for new subscriptions, and a provider id means one subscription. -/
structure Tidy (s : Store) : Prop where
  schema : Schema s
  fresh : Fresh s
  activePrices : s.activePrices.length ≤ 1
  distinct : (s.subscriptions.rows.map (·.subscriptionId)).Nodup

theorem Tidy.evolves (h : Tidy s) (he : Evolves s s') (activePrices : s'.activePrices.length ≤ 1)
    (distinct : (s'.subscriptions.rows.map (·.subscriptionId)).Nodup) : Tidy s' :=
  ⟨h.schema.evolves h.fresh he, h.fresh.evolves he, activePrices, distinct⟩

/-- The computation ends as the machine says, and the store with it. -/
def Matches (s : Store) (c : Call Store Unit) : Except BillingError Machine → Prop
  | .ok m => ∃ s', c.on s = (.ok (), s') ∧ Machine.ofStore s' = m ∧ Tidy s'
  | .error err => isStorable err.message = true ∧
      ∃ s', c.on s = (.error err, s') ∧ Machine.ofStore s' = Machine.ofStore s ∧ Tidy s'

/-! ### Actions -/

theorem findSubscription_on (h : Tidy s) {x : String} (hx : isStorable x = true) :
    (commit (findSubscription x)).on s =
      (.ok ((s.subscriptions.rows.find? (·.subscriptionId == x)).map (·.id)), s) := by
  refine commit_ok (commits_findSubscription.2 ⟨hx, rfl, ?_⟩)
  cases hfind : s.subscriptions.rows.find? (·.subscriptionId == x) with
  | none => exact .inl ⟨List.filter_eq_nil_iff.2 (List.find?_eq_none.1 hfind), rfl⟩
  | some y => exact .inr ⟨y, filter_eq_of_nodup h.distinct hfind, rfl⟩

theorem matches_setStatus (h : Tidy s) {y : Subscription} (hy : y ∈ s.subscriptions.rows)
    (status : SubscriptionStatus) :
    Matches s (Records.setStatus y.id status)
      (.ok ((Machine.ofStore s).put y.subscriptionId y.customerId status)) := by
  rw [Records.setStatus_eq]
  have hknown : s.subscription? y.id ≠ none := by
    intro hnone
    simpa using List.find?_eq_none.1 hnone y hy
  have hcommits : Commits (Store.setStatus y.id status) s () _ := commits_setStatus.2 ⟨hknown, rfl⟩
  refine ⟨_, commit_ok hcommits, Machine.ofStore_setStatus h.schema h.distinct hy status,
    h.evolves (changes_setStatus hcommits).evolves h.activePrices ?_⟩
  rw [Table.rows_map, map_map_eq fun x => by split <;> rfl]
  exact h.distinct

theorem matches_setStatusIfKnown (h : Tidy s) {x : String} (hx : isStorable x = true)
    (status : SubscriptionStatus) :
    Matches s (setStatusIfKnown x status) (.ok ((Machine.ofStore s).setStatus x status)) := by
  simp only [Matches, setStatusIfKnown, Call.on_bind, findSubscription_on h hx, Machine.setStatus,
    Machine.ofStore]
  cases hfind : s.subscriptions.rows.find? (·.subscriptionId == x) with
  | none => exact ⟨s, rfl, rfl, h⟩
  | some y =>
    have hyx : y.subscriptionId = x := by simpa using List.find?_some hfind
    have := matches_setStatus h (List.mem_of_find?_eq_some hfind) status
    rwa [hyx] at this

/-- The machine sees nothing of the default price. -/
theorem Machine.ofStore_bootstrapped (s : Store) :
    Machine.ofStore s.bootstrapped = Machine.ofStore s := by
  obtain ⟨products, prices, tables⟩ := s.bootstrapped_eq
  rw [tables]
  rfl

theorem Tidy.bootstrapped (h : Tidy s) : Tidy s.bootstrapped := by
  obtain ⟨p, price⟩ := exists_activePrices_bootstrapped h.activePrices
  have made : Commits getOrCreateDefaultPrice s p s.bootstrapped := commits_default_iff.2 ⟨price, rfl⟩
  refine h.evolves (changes_getOrCreateDefaultPrice made).evolves (by simp [price]) ?_
  obtain ⟨products, prices, tables⟩ := s.bootstrapped_eq
  rw [tables]
  exact h.distinct

/-- How recording a subscription that is not known ends for the machine. -/
def Machine.subscribe (m : Machine) (customer subscription : String) : Except BillingError Machine :=
  if m.customers customer then
    match Index.refusal? subscriptionIndex [customer, subscription] with
    | some cause => .error (.database cause)
    | none => .ok (m.put subscription customer .active)
  else .error (.notFound (.customerHolder customer))

theorem matches_addSubscription (h : Tidy s) {c x : String} (hc : isStorable c = true)
    (hx : isStorable x = true) (hnew : s.subscriptions.rows.find? (·.subscriptionId == x) = none) :
    Matches s (do let _ ← addSubscription c x; pure ()) ((Machine.ofStore s).subscribe c x) := by
  have hfresh : ∀ y ∈ s.subscriptions.rows, y.subscriptionId ≠ x := by
    simpa using List.find?_eq_none.1 hnew
  rw [Machine.subscribe, Machine.customers_ofStore]
  cases hholder : s.holder? c with
  | none =>
    have hon := addSubscription_of_hindrance hc hx (.nobody h.activePrices (holder?_eq_none.1 hholder))
    refine ⟨isStorable_customerHolder hc, _, ?_, Machine.ofStore_bootstrapped s, h.bootstrapped⟩
    rw [Call.on_bind, hon]
  | some o =>
    obtain ⟨mem, holds⟩ := mem_of_holder? hholder
    simp only [Option.isSome_some, if_true]
    cases hcause : Index.refusal? subscriptionIndex [c, x] with
    | some cause =>
      have hon := addSubscription_of_hindrance hc hx
        (.tooLong h.activePrices ⟨o, mem, holds⟩ (fun y hy _ => hfresh y hy) hcause)
      refine ⟨isStorable_refusal (by decide) hcause, _, ?_, Machine.ofStore_bootstrapped s,
        h.bootstrapped⟩
      rw [Call.on_bind, hon]
    | none =>
      obtain ⟨p, o, -, -, -, hon⟩ := addSubscription_of_subscribable h.schema h.fresh hc hx
        ⟨h.activePrices, ⟨o, mem, holds⟩, fun y hy _ => hfresh y hy, hcause⟩
      obtain ⟨products, prices, tables⟩ := s.bootstrapped_eq
      have hsteps : ActionSteps s _ := hon ▸ (moves_addSubscription c x).on s
      refine ⟨s.bootstrapped.subscribe c x p.id o.id, ?_, ?_, ?_⟩
      · rw [Call.on_bind, hon]
        rfl
      · rw [Machine.ofStore_subscribe (by rw [tables]; exact hnew), Machine.ofStore_bootstrapped]
      · exact h.evolves hsteps.changes.evolves h.bootstrapped.activePrices
          (nodup_map_concat h.bootstrapped.distinct (by rw [tables]; exact hfresh))

theorem matches_deleteCustomer (h : Tidy s) {c : String} (hc : isStorable c = true) :
    Matches s (do let _ ← Records.deleteCustomer c; pure ())
      (.ok ((Machine.ofStore s).removeCustomer c)) := by
  rw [Records.deleteCustomer_eq]
  have hcommits : Commits (Store.deleteCustomer c) s _ _ := commits_deleteCustomer.2 ⟨hc, rfl, rfl⟩
  refine ⟨s.forgetCustomer c, ?_, Machine.ofStore_forgetCustomer h.schema h.distinct c,
    h.evolves (changes_deleteCustomer hcommits).evolves h.activePrices
      (nodup_map_filter _ h.distinct)⟩
  rw [Call.on_bind, commit_ok hcommits]
  rfl

theorem apply_matches (h : Tidy s) {a : Action} (ha : a.IsPlain) :
    Matches s a.apply ((Machine.ofStore s).apply Index.refusal? a) := by
  cases a with
  | completeCheckout customer subscription =>
    obtain ⟨hc, hx⟩ := ha
    simp only [Matches, Action.apply, Call.on_bind, findSubscription_on h hx, Machine.apply,
      Machine.ofStore]
    cases hfind : s.subscriptions.rows.find? (·.subscriptionId == subscription) with
    | none => exact matches_addSubscription h hc hx hfind
    | some y =>
      have hyx : y.subscriptionId = subscription := by simpa using List.find?_some hfind
      have := matches_setStatus h (List.mem_of_find?_eq_some hfind) .active
      rwa [hyx] at this
  | updateStatus subscription status => exact matches_setStatusIfKnown h ha status
  | cancelSubscription subscription => exact matches_setStatusIfKnown h ha .canceled
  | deleteCustomer customer => exact matches_deleteCustomer h ha
  | ignore eventType => exact ⟨s, rfl, rfl, h⟩

/-! ### Events -/

/-- Processing an event ends as the machine says. -/
theorem process_matches (h : Tidy s) {e : Event} (he : e.IsPlain) :
    (∃ a m s', (Machine.ofStore s).process Index.refusal? e = .ok (a, m) ∧
      (process e).on s = (.ok a, s') ∧ Machine.ofStore s' = m ∧ Tidy s') ∨
    ∃ err s', (Machine.ofStore s).process Index.refusal? e = .error err ∧
      (process e).on s = (.error err, s') ∧ isStorable err.message = true ∧
      Machine.ofStore s' = Machine.ofStore s ∧ Tidy s' := by
  unfold Machine.process process
  cases ha : Action.ofEvent e with
  | error err =>
    obtain ⟨-, -, hmessage⟩ := Action.isRefusal_of_ofEvent he ha
    exact .inr ⟨err, s, rfl, rfl, hmessage, rfl, h⟩
  | ok a =>
    have happly := apply_matches h (Action.isPlain_of_ofEvent he ha)
    cases hm : (Machine.ofStore s).apply Index.refusal? a with
    | ok m =>
      rw [hm] at happly
      obtain ⟨s', hon, hview, hs'⟩ := happly
      refine .inl ⟨a, m, s', ?_, ?_, hview, hs'⟩
      · simp only [bind, Except.bind, hm]
        rfl
      · simp only [Call.on_bind, hon]
        rfl
    | error err =>
      rw [hm] at happly
      obtain ⟨hmessage, s', hon, hview, hs'⟩ := happly
      refine .inr ⟨err, s', ?_, ?_, hmessage, hview, hs'⟩
      · simp only [bind, Except.bind, hm]
      · simp only [Call.on_bind, hon]

/-- A store that the machine describes: no attempt is without a result. -/
structure Ready (s : Store) : Prop extends Tidy s where
  settled : ∀ d ∈ s.deliveries, d.state = .success ∨ d.state = .failed
  fits : ∀ d ∈ s.deliveries, Index.refusal? Ledger.eventIndex [d.eventId] = none

theorem Ready.recorded {e : Event} {now : Int} {s₁ s₂ : Store} {r : Except BillingError Action}
    (h : Ready s) (claim : Commits (Ledger.claim now e.id e.type) s true s₁)
    (hfits : Index.refusal? Ledger.eventIndex [e.id] = none)
    (process : (process e).on s₁ = (r, s₂)) (hs₂ : Tidy s₂) {state : DeliveryState}
    (hstate : state = .success ∨ state = .failed) (errorMessage : Option String) :
    Ready (Ledger.recorded e.id state errorMessage s₂) := by
  have hdeliveries : s₂.deliveries = s₁.deliveries := deliveries_process process
  have hmem : ∀ d ∈ (Ledger.recorded e.id state errorMessage s₂).deliveries,
      (d.eventId = e.id ∧ d.state = state) ∨ d ∈ s.deliveries := by
    intro d hd
    rcases Ledger.mem_of_mem_recorded hd with hd | ⟨hne, hd⟩
    · exact .inl hd
    · rw [hdeliveries] at hd
      exact .inr ((Ledger.mem_of_mem_claim claim hd).resolve_left hne)
  have known : ∀ name, state ≠ .other name := by
    rintro name rfl
    simp at hstate
  have recorded : Tidy (Ledger.recorded e.id state errorMessage s₂) :=
    hs₂.evolves (evolves_recorded e.id errorMessage known s₂) hs₂.activePrices hs₂.distinct
  exact
    { recorded with
      settled := fun d hd => by
        rcases hmem d hd with ⟨-, hd⟩ | hd
        · rw [hd]; exact hstate
        · exact h.settled d hd
      fits := fun d hd => by
        rcases hmem d hd with ⟨hd, -⟩ | hd
        · rw [hd]; exact hfits
        · exact h.fits d hd }

/-- An event that has not been applied can be claimed, if its id is not too long. -/
theorem exists_claim (h : Ready s) {e : Event} (he : e.IsPlain) (now : Int)
    (hnot : (Machine.ofStore s).applied e.id = false)
    (hfits : Index.refusal? Ledger.eventIndex [e.id] = none) :
    ∃ s₁, Commits (Ledger.claim now e.id e.type) s true s₁ := by
  cases hrow : Ledger.row? e.id s with
  | none => exact ⟨_, commits_claim.2 ⟨he.id, he.type, .inl ⟨hrow, hfits, rfl, rfl⟩⟩⟩
  | some d =>
    have hfailed : d.state = .failed := by
      refine (h.settled d (Ledger.mem_of_row? hrow)).resolve_left fun hsuccess => ?_
      simp [Machine.ofStore, hrow, hsuccess] at hnot
    have hclaimable : Ledger.isClaimable now d = true := by simp [Ledger.isClaimable, hfailed]
    exact ⟨_, commits_claim.2 ⟨he.id, he.type, .inr ⟨d, hrow, .inl ⟨hclaimable, rfl, rfl⟩⟩⟩⟩

theorem succeeded_iff_applied (id : String) (s : Store) :
    Succeeded id s ↔ (Machine.ofStore s).applied id = true := by
  simp only [Succeeded, Machine.ofStore]
  cases Ledger.row? id s <;> simp

/-- A call ends as the machine says, and so does the store. -/
theorem handle_matches (h : Ready s) {e : Event} (he : e.IsPlain) (now : Int) :
    ∃ r s', (handle now e).on s = (r, s') ∧
      (Machine.ofStore s).handle Index.refusal? e = (r, Machine.ofStore s') ∧ Ready s' := by
  unfold Machine.handle
  cases happlied : (Machine.ofStore s).applied e.id with
  | true =>
    have := ((succeeded_iff_applied e.id s).2 happlied).handle h.schema.eventText now
    rw [if_pos he.type] at this
    exact ⟨_, _, this, rfl, h⟩
  | false =>
    simp only [Bool.false_eq_true, if_false]
    cases hcause : Index.refusal? Ledger.eventIndex [e.id] with
    | some cause =>
      have hnew : Ledger.row? e.id s = none := by
        cases hrow : Ledger.row? e.id s with
        | none => rfl
        | some d =>
          have := h.fits d (Ledger.mem_of_row? hrow)
          rw [Ledger.eventId_of_row? hrow, hcause] at this
          cases this
      have claim : (Ledger.claim now e.id e.type).run s = .error (.database cause) :=
        Ledger.run_claim_of_refusal he.id he.type hnew hcause
      exact ⟨_, _, (Handling.refused claim).on_eq, rfl, h⟩
    | none =>
      obtain ⟨s₁, claim⟩ := exists_claim h he now happlied hcause
      have hview := Machine.ofStore_claim claim happlied
      have hs₁ : Tidy s₁ := by
        have htables := Ledger.tables_claim claim
        exact h.evolves (evolves_claim claim) (by rw [htables]; exact h.activePrices)
          (by rw [htables]; exact h.distinct)
      rw [← hview]
      rcases process_matches hs₁ he with
        ⟨a, m, s₂, hm, process, rfl, hs₂⟩ | ⟨err, s₂, hm, process, hmessage, hview₂, hs₂⟩
      · obtain ⟨d, hd, -⟩ := Ledger.row?_claim claim
        have hd := (row?_process e.id process).trans hd
        refine ⟨_, _, (Handling.applied claim process).on_eq, ?_,
          h.recorded claim hcause process hs₂ (.inl rfl) none⟩
        rw [hm, Machine.ofStore_recorded_success hd]
      · refine ⟨_, _, (Handling.failed claim process hmessage).on_eq, ?_,
          h.recorded claim hcause process hs₂ (.inr rfl) _⟩
        rw [hm, Machine.ofStore_recorded_failed, hview₂]
        rw [hview₂, hview, happlied]

/-! ### Runs -/

/-- How calls one after another end, and what the machine sees of the store each time. -/
def history (s : Store) : List (Int × Event) → List (Except BillingError HandlingResult × Machine)
  | [] => []
  | (now, e) :: calls =>
    (((handle now e).on s).1, Machine.ofStore ((handle now e).on s).2) ::
      history ((handle now e).on s).2 calls

theorem history_eq (h : Ready s) (calls : List (Int × Event)) (hc : ∀ c ∈ calls, c.2.IsPlain) :
    history s calls = (Machine.ofStore s).history Index.refusal? (calls.map (·.2)) := by
  induction calls generalizing s with
  | nil => rfl
  | cons c calls ih =>
    obtain ⟨now, e⟩ := c
    obtain ⟨r, s', hon, hm, hs'⟩ := handle_matches h (hc (now, e) (List.mem_cons_self ..)) now
    simp only [history, List.map_cons, Machine.history, hon, hm]
    rw [ih hs' fun c hc' => hc c (List.mem_cons_of_mem _ hc')]

theorem ready_of_reachable {σ : Type} [PaymentProvider σ] {w : World σ} (h : Reachable w)
    (hp : w.store.activePrices.length ≤ 1)
    (hd : (w.store.subscriptions.rows.map (·.subscriptionId)).Nodup)
    (hl : ∀ d ∈ w.store.deliveries, d.state ≠ .processing) : Ready w.store := by
  have written := Ledger.Written.empty.evolves h.evolves
  exact
    { schema := Schema.empty.evolves .empty h.evolves
      fresh := Fresh.empty.evolves h.evolves
      activePrices := hp
      distinct := hd
      settled := fun d mem => by
        cases hstate : d.state with
        | processing => exact absurd hstate (hl d mem)
        | success => exact .inl rfl
        | failed => exact .inr rfl
        | other name => exact absurd hstate (written.state d mem name)
      fits := written.fits }

/-- The handler refines the machine. Whatever operations have led to a database, if it has at most
one active price, no provider id means two subscriptions and no attempt is without a result, then
calls one after another end as the machine says, and leave what it says; and an event that asks for
nothing that can be done is not supported. -/
theorem history_refines_machine {σ : Type} [PaymentProvider σ] {w : World σ} (h : Reachable w)
    (hp : w.store.activePrices.length ≤ 1)
    (hd : (w.store.subscriptions.rows.map (·.subscriptionId)).Nodup)
    (hl : ∀ d ∈ w.store.deliveries, d.state ≠ .processing)
    (calls : List (Int × Event)) (hc : ∀ c ∈ calls, c.2.IsPlain) :
    history w.store calls =
      (Machine.ofStore w.store).history Index.refusal? (calls.map (·.2)) ∧
    ∀ c ∈ calls, ∀ err, Action.ofEvent c.2 = .error err →
      ∃ problem, err = .eventNotSupported problem := by
  refine ⟨history_eq (ready_of_reachable h hp hd hl) calls hc, fun c mem err herr => ?_⟩
  obtain ⟨problem, heq, -⟩ := Action.isRefusal_of_ofEvent (hc c mem) herr
  exact ⟨problem, heq⟩

theorem isPlain_completion : completion.IsPlain := by
  refine ⟨by decide, by decide, fun name text hfield => ?_⟩
  obtain ⟨value, hvalue, htext⟩ := Option.bind_eq_some_iff.1 hfield
  obtain ⟨before, after, hsplit, -⟩ := List.lookup_eq_some_iff.1 hvalue
  have hmem : (name, value) ∈ [("status", Json.string "complete"),
      ("customer", .string "cus_1"), ("subscription", .string "sub_1")] := by
    rw [hsplit]
    simp
  simp only [List.mem_cons, Prod.mk.injEq, List.not_mem_nil, or_false] at hmem
  obtain ⟨-, rfl⟩ | ⟨-, rfl⟩ | ⟨-, rfl⟩ := hmem
  all_goals cases htext; decide

/-- A checkout of a customer that an organization holds, delivered twice: the subscription is put in
once. -/
theorem history_refines_machine_of_checkout :
    let n : NewOrganization := ⟨"acme", "Acme", "Company", true, none, some "cus_1", 0⟩
    let w : World Provider.Sandbox := (Operation.insertOrganization n).after ⟨.empty, .fresh⟩
    let e : Event := ⟨"evt_1", checkoutCompleted, 0, .object
      [("status", .string "complete"), ("customer", .string "cus_1"),
        ("subscription", .string "sub_1")]⟩
    Reachable w ∧ e.IsPlain ∧ (history w.store [(0, e), (1, e)]).map (·.1) =
      [.ok (.applied (.completeCheckout "cus_1" "sub_1")), .ok .duplicate] := by
  intro n w e
  have h : Reachable w := .after (.empty Provider.Sandbox.fresh) (.insertOrganization n)
  have he : e.IsPlain := isPlain_completion
  obtain ⟨heq, -⟩ := history_refines_machine h (by decide) (by decide) (by decide)
    [(0, e), (1, e)] (by simp [he])
  refine ⟨h, he, ?_⟩
  have haction : Action.ofEvent e = .ok (.completeCheckout "cus_1" "sub_1") := by decide
  have hholder : (Machine.ofStore w.store).customers "cus_1" = true := by decide
  have hunknown : (Machine.ofStore w.store).subscriptions "sub_1" = none := by decide
  have hnew : (Machine.ofStore w.store).applied "evt_1" = false := by decide
  have hfits : Index.refusal? Ledger.eventIndex ["evt_1"] = none := rfl
  have hindexed : Index.refusal? subscriptionIndex ["cus_1", "sub_1"] = none := rfl
  rw [heq]
  simp [Machine.history, Machine.handle, Machine.process, Machine.apply, haction, hholder, hunknown,
    hnew, hfits, hindexed, e, bind, Except.bind, pure, Except.pure]

/-- A text of one letter over and over. -/
def repeated (n : Nat) : String := String.ofList (List.replicate n 'a')

theorem isStorable_repeated (n : Nat) : isStorable (repeated n) = true := by
  simp [repeated, isStorable, List.all_replicate]

theorem length_repeated (n : Nat) : (repeated n).toList.length = n := by
  simp [repeated]

/-- An event with a long id is not applied, though nothing speaks against it but the size of a row
in an index: a machine with indexes that take every row is not refined. -/
theorem not_history_refines_machine_of_long_id :
    ¬ ∀ (w : World Provider.Sandbox) (calls : List (Int × Event)), Reachable w →
      w.store.activePrices.length ≤ 1 →
      (w.store.subscriptions.rows.map (·.subscriptionId)).Nodup →
      (∀ d ∈ w.store.deliveries, d.state ≠ .processing) →
      (∀ c ∈ calls, c.2.IsPlain) →
      history w.store calls =
        (Machine.ofStore w.store).history (fun _ _ => none) (calls.map (·.2)) := by
  intro h
  let e : Event := ⟨repeated 250000, "ping", 0, .null⟩
  have he : e.IsPlain := ⟨isStorable_repeated _, by decide, by simp [e, Json.get?]⟩
  obtain ⟨cause, hcause⟩ := Index.refusal?_of_length Ledger.eventIndex
    (List.mem_singleton_self e.id) (by simp [e, length_repeated, Index.maxPageSize])
  have hready := ready_of_reachable (.empty Provider.Sandbox.fresh) (by decide) (by decide) (by decide)
  have heq := h ⟨.empty, .fresh⟩ [(0, e)] (.empty _) (by decide) (by decide) (by decide) (by simp [he])
  rw [history_eq hready [(0, e)] (by simp [he])] at heq
  have hprocess : (Machine.ofStore .empty).process (fun _ _ => none) e =
      .ok (.ignore "ping", Machine.ofStore .empty) := rfl
  have hnew : (Machine.ofStore .empty).applied e.id = false := rfl
  simp [Machine.history, Machine.handle, hnew, hcause, hprocess] at heq

end OrgBilling.Webhook
