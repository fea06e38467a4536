import Mathlib.Data.List.Basic
import OrgBilling.Proofs.Store.Effect
import OrgBilling.Proofs.Store.Query
import OrgBilling.Proofs.Store.Session
import OrgBilling.Service.Records

/-!
# The operations on the records in one piece

Each operation on the records comes to its net effect: all its statements are done, or, when one of
them fails or turns out to have affected no row, none of them. Where the operation opens a
transaction, this rests on committing last (`Performs`); where it has a single statement and looks at
the number of rows afterwards, on the statement having done nothing if that number is zero
(`commit_bind_requireRows`).
-/

namespace OrgBilling.Store

variable {s : Store}

/-! ### Rows that are not there -/

section Drop

variable {ids ids' : List Uuid}

theorem dropSubscriptions_congr (h : ∀ x, x ∈ ids ↔ x ∈ ids') :
    s.dropSubscriptions ids = s.dropSubscriptions ids' := by
  simp only [dropSubscriptions, List.contains_eq_mem, h]

theorem dropPrices_congr (h : ∀ x, x ∈ ids ↔ x ∈ ids') :
    s.dropPrices ids = s.dropPrices ids' := by
  simp only [dropPrices, List.contains_eq_mem, h]

theorem dropProducts_congr (h : ∀ x, x ∈ ids ↔ x ∈ ids') :
    s.dropProducts ids = s.dropProducts ids' := by
  simp only [dropProducts, List.contains_eq_mem, h]

theorem dropSubscriptions_nil : s.dropSubscriptions [] = s := by
  simp [dropSubscriptions, Table.filter, List.filter_true]

/-- Links that go with their subscriptions may go before them. -/
theorem dropSubscriptions_filter_links {keep : OrganizationLink → Bool}
    (h : ∀ l, l.subscription ∉ ids → keep l = true) :
    dropSubscriptions ids { s with links := s.links.filter keep } = s.dropSubscriptions ids := by
  have hlinks : (s.links.rows.filter keep).filter (fun l => !ids.contains l.subscription) =
      s.links.rows.filter fun l => !ids.contains l.subscription := by
    rw [List.filter_filter]
    refine List.filter_congr fun l _ => ?_
    by_cases hl : l.subscription ∈ ids <;> simp [hl, h]
  simp only [dropSubscriptions, Table.filter, hlinks]

theorem dropPrices_nil : s.dropPrices [] = s := by
  simp [dropPrices, Table.filter, List.filter_true, List.filter_false, dropSubscriptions_nil]

theorem dropProducts_nil : s.dropProducts [] = s := by
  simp [dropProducts, Table.filter, List.filter_true, List.filter_false, dropPrices_nil]

end Drop

section Rows

variable {β : Type} {key : β → Uuid} {rows : List β} {id : Uuid}

/-- The ids of the rows with an id. -/
theorem mem_ids_iff (h : (rows.filter (key · == id)).length ≠ 0) (x : Uuid) :
    x ∈ (rows.filter (key · == id)).map key ↔ x ∈ [id] := by
  obtain ⟨y, hy⟩ := List.exists_mem_of_ne_nil _ (mt List.length_eq_zero_iff.2 h)
  simp only [List.mem_map, List.mem_filter, beq_iff_eq, List.mem_singleton] at hy ⊢
  exact ⟨fun ⟨_, ⟨_, hid⟩, hx⟩ => hx ▸ hid, fun hx => ⟨y, hy, hy.2.trans hx.symm⟩⟩

theorem isNone_find?_iff :
    (rows.find? (key · == id)).isNone = true ↔ (rows.filter (key · == id)).length = 0 := by
  rw [Option.isNone_iff_eq_none, List.length_eq_zero_iff, List.find?_eq_none,
    List.filter_eq_nil_iff]

end Rows

end OrgBilling.Store

namespace OrgBilling.Records

open Store Transaction Session

variable {α : Type} {s : Store}

/-! ### Statements and the rows they affect -/

theorem performs_requireRows_bind {rows : Nat} {what : Missing} {f : Unit → Call Session α}
    {g : Unit → Transaction α} (h : Performs (f ()) (g ())) :
    Performs (requireRows rows what >>= f) (requireRows rows what >>= g) := by
  unfold requireRows
  split
  · exact performs_throw _
  · exact h

/-- A statement is committed by itself and then found to have affected no row. If it has done nothing
in that case, this is the same as not committing it. -/
theorem commit_bind_requireRows {t : Transaction Nat} {what : Missing}
    (h : ∀ s s', Commits t s 0 s' → s' = s) :
    (do let rows ← commit t; requireRows rows what) =
      commit (do let rows ← t; requireRows rows what) := by
  refine Call.ext_on fun s => ?_
  rw [Call.on_bind]
  cases ht : t.run s with
  | error e => rw [commit_error ht, commit_error (run_bind_of_error ht)]
  | ok r =>
    obtain ⟨rows, s'⟩ := r
    have hrun : (t >>= fun rows => requireRows rows what).run s =
        (requireRows rows what : Transaction Unit).run s' := by
      rw [StateT.run_bind, ht]
      rfl
    rw [commit_ok ht]
    cases rows with
    | zero =>
      obtain rfl := h s s' ht
      exact (commit_error hrun).symm
    | succ n => exact (commit_ok hrun).symm

/-- A statement that changes or removes what has an id, and the test of its rows. -/
theorem commit_rows_eq {t : Transaction Nat} {u : Transaction Unit} {what : Missing}
    {rows : Store → Nat} {f : Store → Store} (ht : ∀ s, t.run s = .ok (rows s, f s))
    (hzero : ∀ s, rows s = 0 → f s = s)
    (hu : ∀ s, u.run s = if rows s = 0 then .error (.notFound what) else .ok ((), f s)) :
    (do let rows ← commit t; requireRows rows what) = commit u := by
  rw [commit_bind_requireRows]
  · refine commit_congr fun s => ?_
    rw [StateT.run_bind, ht, hu]
    show (requireRows (rows s) what : Transaction Unit).run (f s) = _
    unfold requireRows
    split <;> rfl
  · intro s s' h
    obtain ⟨hrows, rfl⟩ := Prod.mk.inj (Except.ok.inj ((ht s).symm.trans h))
    exact hzero s hrows

/-- Go on with what was found, or fail. -/
def foundOr {β : Type} (what : Missing) (f : β → Transaction α) : Option β → Transaction α
  | none => throw (.notFound what)
  | some x => f x

/-- What was looked up may be looked up in a piece with what is done about it. -/
theorem commit_foundOr {β : Type} {t : Transaction (Option β)} (h : Reads t) (what : Missing)
    (f : β → Transaction α) {c : Option β → Call Store α}
    (missing : c none = throw (.notFound what)) (found : ∀ x, c (some x) = commit (f x)) :
    (commit t >>= c) = commit (t >>= foundOr what f) := by
  rw [← commit_bind_of_reads h]
  refine bind_congr fun o => ?_
  cases o with
  | none => exact missing
  | some x => exact found x

/-! ### Subscriptions -/

theorem setStatus_eq (id : Uuid) (status : SubscriptionStatus) :
    setStatus id status = commit (Store.setStatus id status) := by
  refine commit_rows_eq (fun _ => rfl) (fun s hrows => ?_) fun s => ?_
  · have hnone := List.countP_eq_zero.1 hrows
    have hsame : s.subscriptions.rows.map
        (fun x => if x.id = id then { x with status } else x) = s.subscriptions.rows := by
      refine (List.map_congr_left fun x hx => if_neg ?_).trans (List.map_id _)
      simpa using hnone x hx
    simp only [Table.map, hsame]
  · rw [List.countP_eq_length_filter]
    simp only [Store.setStatus, run_get_bind, subscription?, isNone_find?_iff]
    split <;> rfl

theorem run_removeSubscriptions_bind {isGone : Subscription → Bool} {f : Nat → Transaction α} :
    (removeSubscriptions isGone >>= f).run s =
      (f (s.subscriptions.rows.filter isGone).length).run
        (s.dropSubscriptions ((s.subscriptions.rows.filter isGone).map (·.id))) := by
  rw [StateT.run_bind]
  rfl

theorem deleteSubscription_eq (id : Uuid) :
    deleteSubscription id = commit (Store.deleteSubscription id) := by
  refine (Performs.transaction_eq (.execute_bind fun _ => .execute_bind fun _ =>
    performs_requireRows_bind performs_commit)).trans (commit_congr fun s => ?_)
  simp only [deleteLinks, bind_assoc, pure_bind, Store.deleteSubscription, subscription?]
  rw [run_get_bind, run_set_bind, run_removeSubscriptions_bind, requireRows, run_get_bind]
  simp only [isNone_find?_iff]
  split
  · rfl
  · next hrows =>
    show Except.ok _ = _
    rw [dropSubscriptions_congr (mem_ids_iff hrows), dropSubscriptions_filter_links]
    · rfl
    · simp

theorem deleteCustomer_eq (customer : String) :
    deleteCustomer customer = commit (Store.deleteCustomer customer) := by
  refine (Performs.transaction_eq (.execute_bind fun _ => .execute_bind fun rows =>
    .execute_bind fun _ => performs_commit_pure rows)).trans (commit_congr fun s => ?_)
  simp only [deleteLinksOf, removeSubscriptionsOf, Store.deleteCustomer, bind_assoc]
  cases htext : [customer].all isStorable with
  | false => rw [run_requireTexts_bind_error htext, run_requireTexts_bind_error htext]
  | true =>
    have htexts := List.all_eq_true.1 htext
    rw [run_requireTexts_bind htexts, run_get_bind, run_set_bind, run_requireTexts_bind htexts,
      run_removeSubscriptions_bind, run_requireTexts_bind htexts, run_get_bind, run_set_bind,
      dropSubscriptions_filter_links]
    simp

/-- The statements that record a subscription of an organization. -/
def subscribeFor (customer subscription : String) (price : Uuid) (organization : Organization) :
    Transaction Subscription := do
  let sub ← insertSubscription customer subscription price .active
  insertLink organization.id sub.id
  insertItem sub.id price 1
  pure sub

theorem insertLinkedSubscription_eq (customer subscription : String) (price : Uuid) :
    insertLinkedSubscription customer subscription price =
      commit (Store.insertLinkedSubscription customer subscription price) := by
  refine (Performs.transaction_eq (.execute_bind
    (g := foundOr (.customerHolder customer) (subscribeFor customer subscription price))
    fun found => ?_)).trans ?_
  · cases found with
    | none => exact performs_throw _
    | some organization =>
      exact .execute_bind fun sub => .execute_bind fun _ => .execute_bind fun _ =>
        performs_commit_pure sub
  · simp only [getOrganizationByCustomer, bind_assoc, pure_bind]
    refine congrArg commit (bind_congr fun _ => bind_congr fun s => ?_)
    cases s.holder? customer <;> rfl

/-! ### Organizations -/

theorem requireRows_holdCustomer_eq (id : Uuid) (customer : String) :
    (do let rows ← holdCustomer id customer; requireRows rows (.organizationRow id)) =
      Store.setOrganizationCustomer id customer := by
  simp only [holdCustomer, Store.setOrganizationCustomer, bind_assoc]
  refine bind_congr fun _ => bind_congr fun s => ?_
  cases s.organization? id with
  | none => rfl
  | some o =>
    simp only [bind_assoc, pure_bind]
    rfl

/-- A transaction may go on after an organization got its customer. -/
theorem performs_setOrganizationCustomer_bind {id : Uuid} {customer : String}
    {f : Unit → Call Session α} {g : Unit → Transaction α} (h : Performs (f ()) (g ())) :
    Performs (setOrganizationCustomer id customer >>= f)
      (Store.setOrganizationCustomer id customer >>= g) := by
  rw [setOrganizationCustomer, ← requireRows_holdCustomer_eq, bind_assoc, bind_assoc]
  exact .execute_bind fun _ => performs_requireRows_bind h

theorem attachCustomer_eq (id : Uuid) (customer : String) :
    attachCustomer id customer = commit (Store.setOrganizationCustomer id customer) := by
  have hbody : Performs (do setOrganizationCustomer id customer; Session.commit)
      (do Store.setOrganizationCustomer id customer; pure ()) :=
    performs_setOrganizationCustomer_bind performs_commit
  rw [attachCustomer, hbody.transaction_eq, bind_pure_unit]

/-! ### Products and prices -/

theorem updateProduct_eq (id : Uuid) (changes : ProductChanges) :
    updateProduct id changes = commit (Store.updateProduct id changes) := by
  refine (commit_foundOr (reads_lookup _) (.productRow id) (fun p =>
    overwriteProduct (changes.apply p)) rfl fun _ => rfl).trans (commit_congr fun s => ?_)
  simp only [bind_assoc, pure_bind, Store.updateProduct]
  rw [run_get_bind, run_get_bind]
  cases hp : s.product? id with
  | none => rfl
  | some p =>
    obtain ⟨-, rfl⟩ := mem_of_product? hp
    refine run_bind_congr fun _ u hu => ?_
    obtain ⟨-, rfl⟩ := commits_requireTexts.1 hu
    have hsome : (u.product? p.id).isSome = true := by rw [hp]; rfl
    exact run_get_bind.trans (run_require_bind hsome)

theorem updatePrice_eq (id : Uuid) (changes : PriceChanges) :
    updatePrice id changes = commit (Store.updatePrice id changes) := by
  refine (commit_foundOr (reads_lookup _) (.priceRow id) (fun p =>
    overwritePrice (changes.apply p)) rfl fun _ => rfl).trans (commit_congr fun s => ?_)
  simp only [bind_assoc, pure_bind, Store.updatePrice]
  rw [run_get_bind, run_get_bind]
  cases hp : s.price? id with
  | none => rfl
  | some p =>
    obtain ⟨-, rfl⟩ := mem_of_price? hp
    refine run_bind_congr fun _ u hu => ?_
    obtain ⟨-, rfl⟩ := commits_requireTexts.1 hu
    have hsome : (u.price? p.id).isSome = true := by rw [hp]; rfl
    exact run_get_bind.trans (run_require_bind hsome)

theorem deleteProduct_eq (id : Uuid) :
    deleteProduct id = commit (Store.deleteProduct id) := by
  refine commit_rows_eq (fun _ => rfl) (fun s hrows => ?_) fun s => ?_
  · rw [List.length_eq_zero_iff.1 hrows]
    exact dropProducts_nil
  · simp only [Store.deleteProduct, run_get_bind, product?, isNone_find?_iff]
    split
    · rfl
    · next hrows =>
      show Except.ok _ = _
      rw [dropProducts_congr (mem_ids_iff hrows)]

theorem deletePrice_eq (id : Uuid) :
    deletePrice id = commit (Store.deletePrice id) := by
  refine commit_rows_eq (fun _ => rfl) (fun s hrows => ?_) fun s => ?_
  · rw [List.length_eq_zero_iff.1 hrows]
    exact dropPrices_nil
  · simp only [Store.deletePrice, run_get_bind, price?, isNone_find?_iff]
    split
    · rfl
    · next hrows =>
      show Except.ok _ = _
      rw [dropPrices_congr (mem_ids_iff hrows)]

/-- What is done about the active prices that were found, of which two are enough to look at. -/
def defaultAmong : List CatalogPrice → Transaction CatalogPrice
  | [] => do
    let product ← insertProduct "PyPI" "Organization account for companies" none
      (some "txcd_10103001")
    insertPrice none "usd" product.id 5000 .month (some "inclusive")
  | [price] => pure price
  | _ => throw (.internal .severalActivePrices)

theorem getOrCreateDefaultPrice_eq :
    getOrCreateDefaultPrice = commit Store.getOrCreateDefaultPrice := by
  refine (Performs.transaction_eq (.execute_bind (g := defaultAmong) fun found => ?_)).trans
    (commit_congr fun s => ?_)
  · rcases found with _ | ⟨price, _ | ⟨other, rest⟩⟩
    · exact .execute_bind fun _ => performs_execute_commit _
    · exact performs_commit_pure price
    · exact performs_throw _
  · simp only [listActivePrices, bind_assoc, pure_bind, Store.getOrCreateDefaultPrice]
    rw [run_get_bind, run_get_bind]
    rcases s.activePrices with _ | ⟨price, _ | ⟨other, rest⟩⟩ <;> rfl

end OrgBilling.Records
