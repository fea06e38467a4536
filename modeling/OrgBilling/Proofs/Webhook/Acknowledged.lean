import OrgBilling.Proofs.Webhook.FirstAttempt
import OrgBilling.Proofs.Webhook.Once

/-!
# What an acknowledged event can rely on

A call that ends without an error is acknowledged to the provider, which then stops delivering the
event. Then either the ledger says that the event has been applied, or the call found another
attempt under way and left everything to it (`row?_of_claim_false`). A call that says itself that it
has applied the event has done the event's action (`Handling.action_done`).

An attempt that was given up without a result stands in the way like one that is under way, so an
event can be acknowledged that is never applied; but it stands in the way for no longer than
`processingTimeout` (`not_duplicate_of_later`).
-/

namespace OrgBilling.Webhook

open Store Transaction

variable {s s' : Store}

/-- An attempt for the event began not longer than `processingTimeout` ago, and has no result. -/
def InFlight (now : Int) (id : String) (s : Store) : Prop :=
  ∃ d, Ledger.row? id s = some d ∧ d.state = .processing ∧ now - processingTimeout ≤ d.startedAt

/-- The event has a row that is in a state that the application never writes. -/
def IsForeign (id : String) (s : Store) : Prop :=
  ∃ d name, Ledger.row? id s = some d ∧ d.state = .other name

/-- What a call finds that is told to leave an event alone. -/
theorem row?_of_claim_false {now : Int} {eventId eventType : String}
    (h : Commits (Ledger.claim now eventId eventType) s false s') :
    s' = s ∧ (Succeeded eventId s ∨ InFlight now eventId s ∨ IsForeign eventId s) := by
  rcases commits_claim.1 h with ⟨-, -, ⟨-, -, hr, -⟩ | ⟨d, hd, ⟨-, hr, -⟩ | ⟨hc, -, rfl⟩⟩⟩
  · cases hr
  · cases hr
  refine ⟨rfl, ?_⟩
  cases hstate : d.state with
  | success => exact .inl ⟨d, hd, hstate⟩
  | failed => simp [Ledger.isClaimable, hstate] at hc
  | processing =>
    refine .inr (.inl ⟨d, hd, hstate, ?_⟩)
    simpa [Ledger.isClaimable, hstate] using hc
  | other name => exact .inr (.inr ⟨d, name, hd, hstate⟩)

/-- An attempt does not stand in the way of another for longer than `processingTimeout`. -/
theorem not_duplicate_of_later {e : Event} {d : Delivery} {later : Int}
    (hd : Ledger.row? e.id s = some d) (hstate : d.state = .processing)
    (hlater : d.startedAt + processingTimeout < later) :
    ((handle later e).on s).1 ≠ .ok .duplicate := by
  cases h : (handle later e).on s with | _ r s' => ?_
  intro hr
  cases hr
  cases Handling.of_on h with
  | duplicate claim =>
    rcases commits_claim.1 claim with ⟨-, -, ⟨-, -, hr, -⟩ | ⟨d', hd', ⟨-, hr, -⟩ | ⟨hc, -⟩⟩⟩
    · cases hr
    · cases hr
    · cases hd.symm.trans hd'
      have : d.startedAt < later - processingTimeout := by omega
      simp [Ledger.isClaimable, hstate, this] at hc

/-- A call that applies its event does what the event asks for, on the tables as they are. -/
theorem Handling.action_done {now : Int} {e : Event} {a : Action}
    (h : Handling now e s (.ok (.applied a)) s') :
    Action.ofEvent e = .ok a ∧
      ∃ u, a.apply.on s = (.ok (), u) ∧ s' = { u with deliveries := s'.deliveries } := by
  cases h with
  | @applied _ s₁ s₂ claim process =>
    obtain ⟨event, happly⟩ := process_ok process
    have ignored := ignoresLedger_apply a s₁.deliveries s
    have tables : s.withLedger s₁.deliveries = s₁ := (Ledger.tables_claim claim).symm
    rw [tables, happly] at ignored
    obtain ⟨ok, done⟩ := Prod.mk.inj ignored
    refine ⟨event, (a.apply.on s).2, Prod.ext ok.symm rfl, ?_⟩
    rw [done]
    rfl

/-- When a call for an event ends without an error, the ledger says that the event has been applied,
and if it was applied by this call, then its action has been done and no other table is changed; or
the call ends as a duplicate, changes nothing, and finds another attempt that began not longer
than `processingTimeout` ago, after which no call for the event ends as a duplicate any more; or it
finds a row in a state that the application never writes. -/
theorem acknowledged {now : Int} {e : Event} {r : HandlingResult}
    (h : (handle now e).on s = (.ok r, s')) :
    (Succeeded e.id s' ∧ ∀ a, r = .applied a → Action.ofEvent e = .ok a ∧
      ∃ u, a.apply.on s = (.ok (), u) ∧ s' = { u with deliveries := s'.deliveries }) ∨
    (r = .duplicate ∧ s' = s ∧
      ((∃ d, Ledger.row? e.id s = some d ∧ d.state = .processing ∧
          now - processingTimeout ≤ d.startedAt ∧
          ∀ later e', e'.id = e.id → d.startedAt + processingTimeout < later →
            ((handle later e').on s).1 ≠ .ok .duplicate) ∨
        IsForeign e.id s)) := by
  have hh := Handling.of_on h
  cases r with
  | applied a =>
    refine .inl ⟨hh.succeeded, fun a' ha => ?_⟩
    cases ha
    exact hh.action_done
  | duplicate =>
    cases hh with
    | duplicate claim =>
      rcases row?_of_claim_false claim with ⟨-, hsucceeded | ⟨d, hd, hstate, hbegin⟩ | hforeign⟩
      · exact .inl ⟨hsucceeded, nofun⟩
      · refine .inr ⟨rfl, rfl, .inl ⟨d, hd, hstate, hbegin, fun later e' hid hlater => ?_⟩⟩
        exact not_duplicate_of_later (hid ▸ hd) hstate hlater
      · exact .inr ⟨rfl, rfl, .inr hforeign⟩

/-- The event of a completed checkout is acknowledged, and the subscription is there. -/
theorem acknowledged_of_completion :
    (handle 0 completion).on held =
        (.ok (.applied (.completeCheckout "cus_1" "sub_1")), completed) ∧
      Succeeded "evt_1" completed ∧
      ∃ u, (Action.completeCheckout "cus_1" "sub_1").apply.on held = (.ok (), u) ∧
        u.subscriptions.rows = [⟨.row 4 1, "cus_1", "sub_1", .row 3 1, .active⟩] := by
  have h := handling_completion.on_eq
  refine ⟨h, ?_⟩
  obtain ⟨succeeded, done⟩ | ⟨hr, -⟩ := acknowledged h
  · obtain ⟨-, u, happly, tables⟩ := done _ rfl
    refine ⟨succeeded, u, happly, ?_⟩
    have same : u.subscriptions = completed.subscriptions := congrArg (·.subscriptions) tables.symm
    rw [same]
    rfl
  · cases hr

/-- An event is acknowledged and not applied while an attempt for it counts as under way. -/
theorem not_succeeded_of_acknowledged :
    ¬ ∀ (s s' : Store) (now : Int) (e : Event) (r : HandlingResult),
      (handle now e).on s = (.ok r, s') → Succeeded e.id s' := by
  intro h
  let s : Store :=
    { Store.empty with deliveries := [⟨.row 7 1, "evt_1", "ping", .processing, none, 0, 0⟩] }
  have hduplicate : (handle 300000000 ⟨"evt_1", "ping", 0, .null⟩).on s = (.ok .duplicate, s) := by
    rfl
  obtain ⟨d, hd, hstate⟩ := h s s 300000000 ⟨"evt_1", "ping", 0, .null⟩ .duplicate hduplicate
  have hrow : Ledger.row? "evt_1" s = some ⟨.row 7 1, "evt_1", "ping", .processing, none, 0, 0⟩ :=
    rfl
  rw [hrow] at hd
  cases hd
  cases hstate

end OrgBilling.Webhook
