import OrgBilling.Proofs.Operation
import OrgBilling.Proofs.Store.Ledger
import OrgBilling.Proofs.Store.Schema
import OrgBilling.Provider.Sandbox

/-!
# Events are applied at most once

An event that has been applied has the row of a success in the ledger (`Succeeded`), and such a row
is final: nothing but handling the event touches it, and handling the event again finds it and stops
(`Succeeded.handle`). So of all calls that handle an event, however they are mixed with other
operations, at most one applies it. A call that does not apply its event leaves no trace of it in
organizations, subscriptions, links and items.

A call is one step of a run here: the calls and the other operations come one after another, in any
order, and the statements of two of them are not interleaved.
-/

namespace OrgBilling.Webhook

open Store Transaction

variable {s s' : Store}

/-- The ledger says that the event has been applied. -/
def Succeeded (id : String) (s : Store) : Prop :=
  ∃ d, Ledger.row? id s = some d ∧ d.state = .success

/-- The event has been applied. -/
def isApplied : Except BillingError HandlingResult → Bool
  | .ok (.applied _) => true
  | _ => false

/-! ### One call -/

theorem Succeeded.congr {id : String} (h : Succeeded id s)
    (hrow : Ledger.row? id s' = Ledger.row? id s) : Succeeded id s' := by
  rw [Succeeded, hrow]
  exact h

/-- An event that has been applied is not claimed again. -/
theorem Succeeded.claim {e : Event} (h : Succeeded e.id s) (hs : Ledger.Textual s) (now : Int) :
    (Ledger.claim now e.id e.type).run s =
      if isStorable e.type then .ok (false, s) else .error (.database .zeroCharacter) := by
  obtain ⟨d, hd, hstate⟩ := h
  have hid : isStorable e.id = true := by
    rw [← Ledger.eventId_of_row? hd]
    exact hs d (Ledger.mem_of_row? hd)
  split
  · next ht =>
    have hc : Ledger.isClaimable now d = false := by simp [Ledger.isClaimable, hstate]
    exact commits_claim.2 ⟨hid, ht, .inr ⟨d, hd, .inr ⟨hc, rfl, rfl⟩⟩⟩
  · next ht =>
    simp [Ledger.claim, requireTexts, require, ht]
    rfl

/-- Handling an event that has been applied changes nothing. -/
theorem Succeeded.handle {e : Event} (h : Succeeded e.id s) (hs : Ledger.Textual s) (now : Int) :
    (handle now e).on s =
      (if isStorable e.type then .ok .duplicate else .error (.database .zeroCharacter), s) := by
  have hclaim := h.claim hs now
  by_cases ht : isStorable e.type = true
  · rw [if_pos ht] at hclaim ⊢
    exact (Handling.duplicate hclaim).on_eq
  · rw [if_neg ht] at hclaim ⊢
    exact (Handling.refused hclaim).on_eq

/-- Processing an event leaves the rows of the ledger alone. -/
theorem row?_process {e : Event} {r : Except BillingError Action} (id : String)
    (h : (process e).on s = (r, s')) : Ledger.row? id s' = Ledger.row? id s :=
  Ledger.row?_congr (deliveries_process h)

/-- Handling an event leaves the rows of other events alone. -/
theorem Handling.row?_ne {now : Int} {e : Event} {r : Except BillingError HandlingResult}
    {id : String} (h : Handling now e s r s') (hne : id ≠ e.id) :
    Ledger.row? id s' = Ledger.row? id s := by
  cases h with
  | refused claim => rfl
  | duplicate claim => rfl
  | applied claim process =>
    rw [Ledger.row?_recorded_ne _ _ _ hne, row?_process id process, Ledger.row?_claim_ne claim hne]
  | failed claim process storable =>
    rw [Ledger.row?_recorded_ne _ _ _ hne, row?_process id process, Ledger.row?_claim_ne claim hne]
  | unrecorded claim process notStorable =>
    rw [row?_process id process, Ledger.row?_claim_ne claim hne]

/-- What has been applied stays applied when an event is handled. -/
theorem Succeeded.after_handle {id : String} (h : Succeeded id s) (hs : Ledger.Textual s) (now : Int)
    (e : Event) : Succeeded id ((Webhook.handle now e).on s).2 := by
  by_cases hid : id = e.id
  · subst hid
    rw [h.handle hs now]
    exact h
  · exact h.congr ((handling_on now e s).row?_ne hid)

/-- When a call applies an event, the ledger says so afterwards. -/
theorem Handling.succeeded {now : Int} {e : Event} {a : Action}
    (h : Handling now e s (.ok (.applied a)) s') : Succeeded e.id s' := by
  cases h with
  | applied claim process =>
    obtain ⟨d, hd, -⟩ := Ledger.row?_claim claim
    have hd := (row?_process e.id process).trans hd
    exact ⟨_, by rw [Ledger.row?_recorded, hd]; rfl, rfl⟩

/-- A call that does not apply its event leaves the tables as they were, or has made the default
price. -/
theorem Handling.tables {now : Int} {e : Event} {r : Except BillingError HandlingResult}
    (h : Handling now e s r s') (hr : isApplied r = false) :
    s' = { s with deliveries := s'.deliveries } ∨
      s.activePrices = [] ∧ s' = { s.withDefaultPrice with deliveries := s'.deliveries } := by
  have processed {s₁ s₂ : Store} {err : BillingError}
      (claim : Commits (Ledger.claim now e.id e.type) s true s₁)
      (process : (process e).on s₁ = (.error err, s₂)) :
      s₂ = { s with deliveries := s₂.deliveries } ∨
        s.activePrices = [] ∧ s₂ = { s.withDefaultPrice with deliveries := s₂.deliveries } := by
    have hs₁ := Ledger.tables_claim claim
    rcases process_error process with rfl | ⟨hp, rfl⟩
    · exact .inl hs₁
    · rw [hs₁] at hp ⊢
      exact .inr ⟨hp, rfl⟩
  cases h with
  | refused claim => exact .inl rfl
  | duplicate claim => exact .inl rfl
  | applied claim process => cases hr
  | failed claim process storable =>
    rcases processed claim process with h | ⟨hp, h⟩
    · rw [h]; exact .inl rfl
    · rw [h]; exact .inr ⟨hp, rfl⟩
  | unrecorded claim process notStorable => exact processed claim process

/-! ### Runs -/

variable {σ : Type} [PaymentProvider σ] {w : World σ}

/-- What has been applied stays applied. -/
theorem Succeeded.after {id : String} (h : Succeeded id w.store) (hs : Ledger.Textual w.store)
    (op : Operation σ) : Succeeded id (op.after w).store := by
  cases hd : op.delivery? w with
  | none => exact h.congr (Ledger.row?_congr (Operation.changes_after hd).deliveries)
  | some d =>
    rw [Operation.store_after hd]
    exact h.after_handle hs d.1 d.2

theorem Succeeded.afterAll {id : String} (h : Succeeded id w.store) (hs : Ledger.Textual w.store)
    (ops : List (Operation σ)) : Succeeded id (afterAll w ops).store := by
  induction ops generalizing w with
  | nil => exact h
  | cons op ops ih => exact ih (h.after hs op) (hs.evolves (op.evolves w))

/-- How often calls for the event with an id ended with its being applied. -/
def applications (id : String) (d : List (Event × Except BillingError HandlingResult)) : Nat :=
  d.countP fun (e, r) => e.id == id && isApplied r

theorem applications_cons (id : String) (op : Operation σ) (ops : List (Operation σ)) :
    applications id (outcomes w (op :: ops)) =
      applications id (op.outcome? w).toList + applications id (outcomes (op.after w) ops) := by
  rw [outcomes, applications, List.countP_append]
  rfl

theorem applications_outcome_le_one (id : String) (op : Operation σ) :
    applications id (op.outcome? w).toList ≤ 1 := by
  refine Nat.le_trans List.countP_le_length ?_
  cases op.outcome? w <;> simp

/-- An operation that applies an event leaves the row of a success. -/
theorem succeeded_of_applications {id : String} {op : Operation σ}
    (h : applications id (op.outcome? w).toList ≠ 0) : Succeeded id (op.after w).store := by
  obtain ⟨⟨e, r⟩, hmem, hid, happlied⟩ :
      ∃ d ∈ (op.outcome? w).toList, d.1.id = id ∧ isApplied d.2 := by
    simpa [applications] using List.countP_pos_iff.1 (Nat.pos_of_ne_zero h)
  obtain ⟨⟨now, e'⟩, hd, heq⟩ := Option.map_eq_some_iff.1 (Option.mem_toList.1 hmem)
  cases heq
  rw [Operation.store_after hd, ← hid]
  have hh := handling_on now e w.store
  cases hr : ((Webhook.handle now e).on w.store).1 with
  | error err => rw [hr] at happlied; cases happlied
  | ok res =>
    cases res with
    | duplicate => rw [hr] at happlied; cases happlied
    | applied a =>
      rw [hr] at hh
      exact hh.succeeded

/-- An operation does not apply an event that has been applied. -/
theorem Succeeded.applications_outcome {id : String} (h : Succeeded id w.store)
    (hs : Ledger.Textual w.store) (op : Operation σ) : applications id (op.outcome? w).toList = 0 := by
  unfold Operation.outcome?
  cases op.delivery? w with
  | none => rfl
  | some d =>
    by_cases hid : d.2.id = id
    · subst hid
      simp only [Option.map_some, Option.toList_some, applications, h.handle hs]
      split <;> simp [isApplied]
    · simp [applications, hid]

theorem Succeeded.applications_eq_zero {id : String} (h : Succeeded id w.store)
    (hs : Ledger.Textual w.store) (ops : List (Operation σ)) :
    applications id (outcomes w ops) = 0 := by
  induction ops generalizing w with
  | nil => rfl
  | cons op ops ih =>
    rw [applications_cons, h.applications_outcome hs op, Nat.zero_add]
    exact ih (h.after hs op) (hs.evolves (op.evolves w))

/-- Of all calls that handle an event at most one applies it. -/
theorem applications_le_one (hs : Ledger.Textual w.store) (ops : List (Operation σ)) (id : String) :
    applications id (outcomes w ops) ≤ 1 := by
  induction ops generalizing w with
  | nil => exact Nat.zero_le 1
  | cons op ops ih =>
    have hs' := hs.evolves (op.evolves w)
    rw [applications_cons]
    by_cases h : applications id (op.outcome? w).toList = 0
    · rw [h, Nat.zero_add]
      exact ih hs'
    · rw [(succeeded_of_applications h).applications_eq_zero hs', Nat.add_zero]
      exact applications_outcome_le_one id op

/-- Events are applied at most once. In every run of operations on a database that keeps its schema,

* at most one call applies the event with an id;
* once the ledger has the row of a success for an id it keeps it, and a call for that id changes
  nothing: it finds a duplicate, or is refused for a type that the ledger cannot hold;
* a call that does not apply its event leaves organizations, subscriptions, links and items as they
  were, and products and prices too, unless there was no active price: then it may have made the
  default product and price. -/
theorem applied_at_most_once (hs : Schema w.store) (ops : List (Operation σ)) :
    (∀ id, applications id (outcomes w ops) ≤ 1) ∧
    (∀ id ops₁ ops₂, ops = ops₁ ++ ops₂ → Succeeded id (afterAll w ops₁).store →
      Succeeded id (afterAll w ops).store ∧
      ∀ now e, e.id = id → (handle now e).on (afterAll w ops).store =
        (if isStorable e.type then .ok .duplicate else .error (.database .zeroCharacter),
          (afterAll w ops).store)) ∧
    ∀ now e s s' r, s = (afterAll w ops).store → (handle now e).on s = (r, s') → isApplied r = false →
      s'.organizations = s.organizations ∧ s'.subscriptions = s.subscriptions ∧
      s'.links = s.links ∧ s'.items = s.items ∧
      ((s'.products = s.products ∧ s'.prices = s.prices) ∨
        (s.activePrices = [] ∧ s'.products = s.withDefaultPrice.products ∧
          s'.prices = s.withDefaultPrice.prices)) := by
  have text : Ledger.Textual w.store := hs.eventText
  refine ⟨applications_le_one text ops, ?_, ?_⟩
  · rintro id ops₁ ops₂ rfl hid
    have hs₁ := text.evolves (evolves_afterAll w ops₁)
    have hs₂ := text.evolves (evolves_afterAll w (ops₁ ++ ops₂))
    have hsucceeded : Succeeded id (afterAll w (ops₁ ++ ops₂)).store := by
      rw [afterAll_append]
      exact hid.afterAll hs₁ ops₂
    refine ⟨hsucceeded, ?_⟩
    rintro now e rfl
    exact hsucceeded.handle hs₂ now
  · intro now e s s' r _ hhandle hr
    rcases (Handling.of_on hhandle).tables hr with h | ⟨hp, h⟩
    · rw [h]
      exact ⟨rfl, rfl, rfl, rfl, .inl ⟨rfl, rfl⟩⟩
    · rw [h]
      exact ⟨rfl, rfl, rfl, rfl, .inr ⟨hp, rfl, rfl⟩⟩

/-- A checkout is completed, and the event is delivered twice. The first delivery records the
subscription; the second one finds a duplicate and changes nothing. -/
theorem applied_at_most_once_of_completion :
    let w : World Provider.Sandbox := ⟨held, .fresh⟩
    let w' := afterAll w [.handle 0 completion]
    Schema w.store ∧ w'.store = completed ∧
      applications "evt_1" (outcomes w [.handle 0 completion, .handle 1 completion]) ≤ 1 ∧
      (handle 1 completion).on w'.store = (.ok .duplicate, w'.store) := by
  intro w w'
  have schema : Schema w.store := Schema.empty.evolves .empty evolves_held
  have after : ((Operation.handle 0 completion).after w).store =
      ((handle 0 completion).on held).2 := Operation.store_after rfl
  have applied : w'.store = completed := after.trans (by rw [handling_completion.on_eq])
  have first : Succeeded "evt_1" w'.store := applied ▸ handling_completion.succeeded
  obtain ⟨once, -, -⟩ := applied_at_most_once schema [.handle 0 completion, .handle 1 completion]
  obtain ⟨-, final, -⟩ := applied_at_most_once schema [.handle 0 completion]
  have again := (final "evt_1" [.handle 0 completion] [] rfl first).2 1 completion rfl
  exact ⟨schema, applied, once "evt_1", again⟩

end OrgBilling.Webhook
