import OrgBilling.Proofs.Deletion
import OrgBilling.Proofs.Keys
import OrgBilling.Proofs.NewSubscription

/-!
# When an organization can hold another customer

The customer of an organization is written in one row, and the reference of the subscriptions carries
it over to any number of others. `CanHold` collects what this asks for, and `Obstacle` says how it
ends where one of these things is missing: the first that is missing decides. The subscriptions that
move on cannot meet one that has the new customer already, since such a subscription refers to an
organization that holds it, and no other one does (`Schema.hasUniqueSubscriptions_moveCustomer`). So
the subscriptions of the former customer are exactly those of the new one (`moves_customer`).

What can be in the way besides the rows is the room in an index, which has to hold the new customer,
also together with the provider's id of each subscription (`not_canHold_by_rows`).
-/

namespace OrgBilling

open Store Transaction

namespace Store

variable {s : Store} {id : Uuid} {c : String} {o : Organization}

/-- The subscription refers to the customer that the organization with an id holds. -/
def BelongsTo (id : Uuid) (s : Store) (x : Subscription) : Prop :=
  ∃ o ∈ s.organizations.rows, o.id = id ∧ o.customerId = some x.customerId

/-- What it takes for the organization with an id to hold a customer. -/
structure CanHold (id : Uuid) (c : String) (s : Store) : Prop where
  known : ∃ o ∈ s.organizations.rows, o.id = id
  /-- No other organization holds the customer. -/
  free : ∀ p ∈ s.organizations.rows, p.id ≠ id → p.customerId ≠ some c
  /-- The index of the customers has room for it. -/
  indexed : Index.refusal? customerIndex [c] = none
  /-- So has the index of the subscriptions for those that move on. -/
  carried : ∀ x ∈ s.subscriptions.rows, s.BelongsTo id x →
    Index.refusal? subscriptionIndex [c, x.subscriptionId] = none

/-- Why the organization with an id cannot hold a customer. A reason counts where none of those before
it does. -/
inductive Obstacle (id : Uuid) (c : String) (s : Store) : BillingError → Prop
  | unknown (absent : ∀ o ∈ s.organizations.rows, o.id ≠ id) :
      Obstacle id c s (.notFound (.organizationRow id))
  | taken (known : ∃ o ∈ s.organizations.rows, o.id = id)
      (other : ∃ p ∈ s.organizations.rows, p.id ≠ id ∧ p.customerId = some c) :
      Obstacle id c s (.database (.duplicateKey customerIndex))
  | tooLong (known : ∃ o ∈ s.organizations.rows, o.id = id)
      (free : ∀ p ∈ s.organizations.rows, p.id ≠ id → p.customerId ≠ some c)
      {cause : DatabaseError} (refused : Index.refusal? customerIndex [c] = some cause) :
      Obstacle id c s (.database cause)
  | tooLongCarried (known : ∃ o ∈ s.organizations.rows, o.id = id)
      (free : ∀ p ∈ s.organizations.rows, p.id ≠ id → p.customerId ≠ some c)
      (indexed : Index.refusal? customerIndex [c] = none)
      {x : Subscription} (hx : x ∈ s.subscriptions.rows) (belongs : s.BelongsTo id x)
      {cause : DatabaseError}
      (refused : Index.refusal? subscriptionIndex [c, x.subscriptionId] = some cause) :
      Obstacle id c s (.database cause)

/-- An index refuses a row for its size, and never because it holds the key already. -/
theorem Index.refusal?_ne_duplicateKey {index key : String} {texts : List String} :
    refusal? index texts ≠ some (.duplicateKey key) := by
  unfold refusal?
  dsimp only
  split
  · exact fun h => nomatch Option.some.inj h
  · split
    · exact fun h => nomatch Option.some.inj h
    · exact nofun

/-! ### Subscriptions that move on -/

theorem Schema.belongsTo_iff (h : Schema s) (mem : o ∈ s.organizations.rows) {x : Subscription} :
    s.BelongsTo o.id x ↔ o.customerId = some x.customerId := by
  constructor
  · rintro ⟨p, hp, hid, hpx⟩
    rwa [← List.inj_on_of_nodup_map h.organizations hp mem hid]
  · exact fun hox => ⟨o, mem, rfl, hox⟩

/-- A subscription of a customer that no other organization holds belongs to this one. -/
theorem Schema.customerId_of_free (h : Schema s) (mem : o ∈ s.organizations.rows)
    (free : ∀ p ∈ s.organizations.rows, p.id ≠ o.id → p.customerId ≠ some c) {x : Subscription}
    (hx : x ∈ s.subscriptions.rows) (hc : x.customerId = c) : o.customerId = some x.customerId := by
  obtain ⟨p, hp, hpx⟩ := h.subscriptionCustomer x hx
  by_cases hid : p.id = o.id
  · rwa [← List.inj_on_of_nodup_map h.organizations hp mem hid]
  · exact absurd (hc ▸ hpx) (free p hp hid)

theorem Schema.renameRow_customerId_iff (h : Schema s) (mem : o ∈ s.organizations.rows)
    (free : ∀ p ∈ s.organizations.rows, p.id ≠ o.id → p.customerId ≠ some c) {x : Subscription}
    (hx : x ∈ s.subscriptions.rows) :
    (renameRow o.customerId c x).customerId = c ↔ o.customerId = some x.customerId := by
  unfold renameRow
  split
  · next hox => exact iff_of_true rfl hox
  · next hox => exact iff_of_false (fun hc => hox (h.customerId_of_free mem free hx hc)) hox

/-- Subscriptions that move on to a customer have different keys there. -/
theorem Schema.hasUniqueSubscriptions_moveCustomer (h : Schema s) (mem : o ∈ s.organizations.rows)
    (free : ∀ p ∈ s.organizations.rows, p.id ≠ o.id → p.customerId ≠ some c) :
    hasUniqueSubscriptions (s.moveCustomer o c).subscriptions = true := by
  refine decide_eq_true ?_
  rw [Store.moveCustomer, Table.rows_map, List.map_map, List.Nodup, List.pairwise_map]
  refine (List.pairwise_map.1 h.subscriptionKey).imp_of_mem fun {x y} hx hy hne heq => hne ?_
  simp only [Function.comp_apply, Prod.mk.injEq, renameRow_subscriptionId] at heq ⊢
  refine ⟨?_, heq.2⟩
  have moved := (h.renameRow_customerId_iff mem free hx).symm.trans
    ((Eq.congr_left heq.1).trans (h.renameRow_customerId_iff mem free hy))
  by_cases hox : o.customerId = some x.customerId
  · exact Option.some.inj (hox.symm.trans (moved.1 hox))
  · have hoy : ¬ o.customerId = some y.customerId := fun hoy => hox (moved.2 hoy)
    simpa [renameRow, hox, hoy] using heq.1

/-- The subscriptions of the new customer are those that have moved on to it. -/
theorem Schema.filter_moveCustomer (h : Schema s) (mem : o ∈ s.organizations.rows)
    (free : ∀ p ∈ s.organizations.rows, p.id ≠ o.id → p.customerId ≠ some c) :
    (s.moveCustomer o c).subscriptions.rows.filter (·.customerId == c) =
      (s.subscriptions.rows.filter fun x => o.customerId == some x.customerId).map
        (renameRow o.customerId c) := by
  rw [Store.moveCustomer, Table.rows_map, List.filter_map]
  refine congrArg (List.map _) (List.filter_congr fun x hx => ?_)
  rw [Function.comp_apply, Bool.eq_iff_iff, beq_iff_eq, beq_iff_eq]
  exact h.renameRow_customerId_iff mem free hx

/-! ### How it ends -/

section Ends

variable (hc : isStorable c = true) (ho : s.organization? id = some o)

include hc in
theorem run_setOrganizationCustomer_of_unknown (h : s.organization? id = none) :
    (setOrganizationCustomer id c).run s = .error (.notFound (.organizationRow id)) := by
  rw [setOrganizationCustomer, run_requireTexts_bind (by simpa using hc), run_get_bind, h]
  rfl

include hc ho

theorem run_setOrganizationCustomer_of_taken
    (other : ∃ p ∈ s.organizations.rows, p.id ≠ id ∧ p.customerId = some c) :
    (setOrganizationCustomer id c).run s = .error (.database (.duplicateKey customerIndex)) := by
  rw [setOrganizationCustomer, run_requireTexts_bind (by simpa using hc), run_get_bind, ho]
  exact run_bind_of_error (run_require (by simpa [holds] using other))

/-- What is checked once it is clear that no other organization holds the customer. -/
theorem run_setOrganizationCustomer_of_free
    (free : ∀ p ∈ s.organizations.rows, p.id ≠ id → p.customerId ≠ some c) :
    (setOrganizationCustomer id c).run s = (do
      requireIndexable customerIndex [c]
      require (hasUniqueSubscriptions (s.moveCustomer o c).subscriptions)
        (.duplicateKey subscriptionIndex)
      ((s.moveCustomer o c).subscriptions.rows.filter (·.customerId == c)).forM fun x =>
        requireIndexable subscriptionIndex [c, x.subscriptionId]
      set (s.moveCustomer o c) : Transaction Unit).run s := by
  obtain ⟨-, rfl⟩ := mem_of_organization? ho
  have only : (s.organizations.rows.all fun p => p.id == o.id || !holds c p) = true := by
    simpa [holds, or_iff_not_imp_left] using free
  rw [setOrganizationCustomer, run_requireTexts_bind (by simpa using hc), run_get_bind, ho]
  dsimp only
  rw [run_require_bind only]
  cases hold : o.customerId with
  | some old => simp only [moveCustomer, renameCustomer, renameRow_some, holdRow_eq, hold]
  | none => simp [moveCustomer, holdRow_eq, renameRow_none, Table.map, hold]

end Ends

/-- Of rows of which an index refuses some, it refuses one, and nothing after it is tried. -/
theorem run_forM_requireIndexable_bind {α : Type} {xs : List α} (index : String)
    (key : α → List String) (f : Unit → Transaction Unit) (s : Store) {x : α} (hx : x ∈ xs)
    (refused : Index.refusal? index (key x) ≠ none) :
    ∃ y ∈ xs, ∃ cause, Index.refusal? index (key y) = some cause ∧
      ((xs.forM fun y => requireIndexable index (key y)) >>= f).run s = .error (.database cause) := by
  induction xs with
  | nil => cases hx
  | cons y ys ih =>
    cases hy : Index.refusal? index (key y) with
    | some cause =>
      refine ⟨y, List.mem_cons_self, cause, hy, run_bind_of_error ?_⟩
      exact run_bind_of_error (run_requireIndexable hy)
    | none =>
      have mem : x ∈ ys := by
        rcases List.mem_cons.1 hx with rfl | mem
        · exact absurd hy refused
        · exact mem
      obtain ⟨z, hz, cause, hcause, run⟩ := ih mem
      refine ⟨z, List.mem_cons_of_mem y hz, cause, hcause, Eq.trans ?_ run⟩
      have taken : requireIndexable index (key y) = pure () := by rw [requireIndexable, hy]
      change StateT.run ((requireIndexable index (key y) >>= fun _ =>
        ys.forM fun y => requireIndexable index (key y)) >>= f) s = _
      rw [taken, pure_bind]

theorem Obstacle.ne_duplicateKey {e : BillingError} (h : s.Obstacle id c e) :
    e ≠ .database (.duplicateKey subscriptionIndex) := by
  cases h with
  | unknown => exact nofun
  | taken => decide
  | tooLong _ _ refused =>
    rintro ⟨⟩
    exact Index.refusal?_ne_duplicateKey refused
  | tooLongCarried _ _ _ _ _ refused =>
    rintro ⟨⟩
    exact Index.refusal?_ne_duplicateKey refused

theorem Schema.commits_of_canHold (h : Schema s) (hc : isStorable c = true)
    (can : s.CanHold id c) : ∃ o ∈ s.organizations.rows, o.id = id ∧
      Commits (setOrganizationCustomer id c) s () (s.moveCustomer o c) := by
  obtain ⟨o, mem, rfl⟩ := can.known
  have carried : ∀ x ∈ (s.moveCustomer o c).subscriptions.rows, x.customerId = c →
      Index.refusal? subscriptionIndex [c, x.subscriptionId] = none := by
    intro x' hx' hcx
    obtain ⟨x, hx, rfl⟩ := List.mem_map.1 hx'
    have hox := (h.renameRow_customerId_iff mem can.free hx).1 hcx
    rw [renameRow_subscriptionId]
    exact can.carried x hx ((h.belongsTo_iff mem).2 hox)
  exact ⟨o, mem, rfl, commits_setOrganizationCustomer.2 ⟨hc, o, find?_of_nodup h.organizations mem,
    fun p hp => or_iff_not_imp_left.2 (can.free p hp), can.indexed,
    h.hasUniqueSubscriptions_moveCustomer mem can.free, carried, rfl⟩⟩

/-- An index has no room for one of the subscriptions that move on. -/
theorem Schema.run_of_refused (h : Schema s) (hc : isStorable c = true)
    (mem : o ∈ s.organizations.rows)
    (free : ∀ p ∈ s.organizations.rows, p.id ≠ o.id → p.customerId ≠ some c)
    (indexed : Index.refusal? customerIndex [c] = none) {x : Subscription}
    (hx : x ∈ s.subscriptions.rows) (belongs : s.BelongsTo o.id x)
    (refused : Index.refusal? subscriptionIndex [c, x.subscriptionId] ≠ none) :
    ∃ e, s.Obstacle o.id c e ∧ (setOrganizationCustomer o.id c).run s = .error e := by
  have moves : x ∈ s.subscriptions.rows.filter fun x => o.customerId == some x.customerId :=
    List.mem_filter.2 ⟨hx, by simpa using (h.belongsTo_iff mem).1 belongs⟩
  have refused : Index.refusal? subscriptionIndex
      [c, (renameRow o.customerId c x).subscriptionId] ≠ none := by
    rwa [renameRow_subscriptionId]
  obtain ⟨y', hy', cause, hcause, fails⟩ :=
    run_forM_requireIndexable_bind subscriptionIndex (fun x : Subscription => [c, x.subscriptionId])
      (fun _ => set (s.moveCustomer o c)) s (List.mem_map_of_mem moves) refused
  obtain ⟨y, hy, rfl⟩ := List.mem_map.1 hy'
  obtain ⟨hy, hoy⟩ := List.mem_filter.1 hy
  rw [renameRow_subscriptionId] at hcause
  refine ⟨_, .tooLongCarried ⟨o, mem, rfl⟩ free indexed hy
    ((h.belongsTo_iff mem).2 (by simpa using hoy)) hcause, ?_⟩
  rw [run_setOrganizationCustomer_of_free hc (find?_of_nodup h.organizations mem) free,
    requireIndexable,
    indexed, pure_bind, run_require_bind (h.hasUniqueSubscriptions_moveCustomer mem free),
    h.filter_moveCustomer mem free]
  exact fails

theorem Schema.run_of_not_canHold (h : Schema s) (hc : isStorable c = true)
    (cannot : ¬ s.CanHold id c) :
    ∃ e, s.Obstacle id c e ∧ (setOrganizationCustomer id c).run s = .error e := by
  by_cases known : ∃ o ∈ s.organizations.rows, o.id = id
  swap
  · have absent : ∀ o ∈ s.organizations.rows, o.id ≠ id := fun o ho hid => known ⟨o, ho, hid⟩
    exact ⟨_, .unknown absent,
      run_setOrganizationCustomer_of_unknown hc (by simpa [organization?] using absent)⟩
  obtain ⟨o, mem, rfl⟩ := known
  have ho : s.organization? o.id = some o := find?_of_nodup h.organizations mem
  have known : ∃ p ∈ s.organizations.rows, p.id = o.id := ⟨o, mem, rfl⟩
  by_cases other : ∃ p ∈ s.organizations.rows, p.id ≠ o.id ∧ p.customerId = some c
  · exact ⟨_, .taken known other, run_setOrganizationCustomer_of_taken hc ho other⟩
  have free : ∀ p ∈ s.organizations.rows, p.id ≠ o.id → p.customerId ≠ some c :=
    fun p hp hid hpc => other ⟨p, hp, hid, hpc⟩
  cases indexed : Index.refusal? customerIndex [c] with
  | some cause =>
    refine ⟨_, .tooLong known free indexed, ?_⟩
    rw [run_setOrganizationCustomer_of_free hc ho free]
    exact run_bind_of_error (run_requireIndexable indexed)
  | none =>
    by_contra fine
    refine cannot ⟨known, free, indexed, fun x hx belongs => ?_⟩
    by_contra refused
    exact fine (h.run_of_refused hc mem free indexed hx belongs refused)

end Store

/-- An organization can be made to hold a customer exactly if it exists, no other organization holds
the customer, and the indexes have room for it and for the subscriptions that move on to it. Then the
subscriptions of the organization's former customer, of which there are none if it held none, have
the new customer, and they are all that have it; the organization holds it, and nothing else changes.
Where it cannot be made to hold the customer, the error names the first of these things that is
missing, which is never that two subscriptions would be the same, and nothing changes. -/
theorem moves_customer {s : Store} (h : Schema s) {c : String} (hc : isStorable c = true)
    (id : Uuid) :
    ((∃ s', (Records.attachCustomer id c).on s = (.ok (), s')) ↔ s.CanHold id c) ∧
    (∀ s', (Records.attachCustomer id c).on s = (.ok (), s') →
      ∃ o ∈ s.organizations.rows, o.id = id ∧
        s' = { s with
          organizations := s.organizations.map fun p =>
            if p.id = id then { p with customerId := some c } else p
          subscriptions := s.subscriptions.map fun x =>
            if o.customerId = some x.customerId then { x with customerId := c } else x } ∧
        (s'.subscriptions.rows.filter (·.customerId == c)).map (·.id) =
          (s.subscriptions.rows.filter fun x => o.customerId == some x.customerId).map (·.id)) ∧
    ∀ e s', (Records.attachCustomer id c).on s = (.error e, s') →
      s.Obstacle id c e ∧ e ≠ .database (.duplicateKey subscriptionIndex) ∧ s' = s := by
  rw [Records.attachCustomer_eq]
  by_cases can : s.CanHold id c
  · obtain ⟨o, mem, rfl, commits⟩ := h.commits_of_canHold hc can
    have hon := commit_ok commits
    refine ⟨iff_of_true ⟨_, hon⟩ can, fun s' hok => ?_, fun e s' herror => ?_⟩
    · rw [hon] at hok
      cases hok
      refine ⟨o, mem, rfl, rfl, ?_⟩
      rw [h.filter_moveCustomer mem can.free, List.map_map]
      exact List.map_congr_left fun x _ => renameRow_id _ _ x
    · rw [hon] at herror
      cases herror
  · obtain ⟨e, obstacle, run⟩ := h.run_of_not_canHold hc can
    have hon := commit_error run
    refine ⟨iff_of_false ?_ can, fun s' hok => ?_, fun e' s' herror => ?_⟩
    · rintro ⟨s', hok⟩
      rw [hon] at hok
      cases hok
    · rw [hon] at hok
      cases hok
    · rw [hon] at herror
      cases herror
      exact ⟨obstacle, obstacle.ne_duplicateKey, rfl⟩

/-- The organization with the two subscriptions moves on to another customer. Its neighbour keeps the
subscription of the same provider id. -/
theorem moves_customer_of_neighbours :
    ∃ s', (Records.attachCustomer (.row 1 1) "cus_3").on neighbours.store = (.ok (), s') ∧
      s'.organizations.rows.map (·.customerId) = [some "cus_3", some "cus_2"] ∧
      s'.subscriptions.rows.map (fun x => (x.customerId, x.subscriptionId)) =
        [("cus_3", "sub_1"), ("cus_2", "sub_1"), ("cus_3", "sub_2")] := by
  have reachable : Reachable neighbours := (Reachable.empty _).afterAll _
  have schema : Schema neighbours.store := Schema.empty.evolves .empty reachable.evolves
  obtain ⟨succeeds, exactly, -⟩ :=
    moves_customer schema (by decide : isStorable "cus_3" = true) (.row 1 1)
  have room : ∀ x ∈ neighbours.store.subscriptions.rows,
      Index.refusal? subscriptionIndex ["cus_3", x.subscriptionId] = none := by decide +kernel
  have former : ∀ o ∈ neighbours.store.organizations.rows,
      o.id = .row 1 1 → o.customerId = some "cus_1" := by decide +kernel
  obtain ⟨s', hon⟩ := succeeds.2
    { known := by decide +kernel
      free := by decide +kernel
      indexed := rfl
      carried := fun x hx _ => room x hx }
  obtain ⟨o, mem, hid, rfl, -⟩ := exactly s' hon
  rw [former o mem hid] at hon
  exact ⟨_, hon, by decide +kernel, by decide +kernel⟩

/-- The rows alone do not decide: no organization holds a customer whose id is too long for the index,
though the organization exists and no other one holds the customer. -/
theorem not_canHold_by_rows :
    ¬ ∀ (s : Store) (id : Uuid) (c : String), Schema s → isStorable c = true →
      ((∃ s', (Records.attachCustomer id c).on s = (.ok (), s')) ↔
        (∃ o ∈ s.organizations.rows, o.id = id) ∧
          ∀ p ∈ s.organizations.rows, p.id ≠ id → p.customerId ≠ some c) := by
  intro decides
  have schema : Schema acmeAlone.store := Schema.empty.evolves .empty reachable_acmeAlone.evolves
  obtain ⟨c, hc, refused⟩ := Index.exists_refused customerIndex
  obtain ⟨cause, refused⟩ := refused [c] (List.mem_singleton_self c)
  have known : ∃ o ∈ acmeAlone.store.organizations.rows, o.id = .row 1 1 := by decide
  have alone : ∀ p ∈ acmeAlone.store.organizations.rows, p.id = .row 1 1 := by decide
  obtain ⟨s', hok⟩ := (decides acmeAlone.store (.row 1 1) c schema hc).2
    ⟨known, fun p hp hid => absurd (alone p hp) hid⟩
  have cannot : ¬ acmeAlone.store.CanHold (.row 1 1) c := fun can => by
    simp [can.indexed] at refused
  obtain ⟨e, -, run⟩ := schema.run_of_not_canHold hc cannot
  rw [Records.attachCustomer_eq, commit_error run] at hok
  cases hok

end OrgBilling
