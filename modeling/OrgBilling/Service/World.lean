import OrgBilling.Provider.Api
import OrgBilling.Service.Records

/-!
# Database and provider together

The application works on two things that fail independently: its database, and the payment provider.
A `World` holds both. What is written on either side stays written when the other side fails, which
is why the operations that touch both sides are careful about their order.
-/

namespace OrgBilling

/-- The database of the application and its payment provider. -/
structure World (σ : Type) where
  /-- The database. -/
  store : Store
  /-- The provider. -/
  provider : σ

/-- A computation on database and provider. -/
abbrev Billing (σ : Type) := Call (World σ)

namespace Billing

variable {σ α : Type}

/-- A computation on the database. -/
def onStore (c : Call Store α) : Billing σ α :=
  c.focus World.store fun w s => { w with store := s }

/-- A request to the provider. -/
def onProvider (c : Call σ α) : Billing σ α :=
  c.focus World.provider fun w p => { w with provider := p }

/-- A statement of the database. -/
def transact (t : Transaction α) : Billing σ α :=
  onStore (commit t)

/-- A transaction of the database that stays open while the provider is asked. What is done at the
provider is done, whatever becomes of the transaction. -/
def transaction (body : Call (Session × σ) α) : Billing σ α :=
  Call.ofFunction fun w =>
    let (r, c, p) := body.on (.start w.store, w.provider)
    (r, ⟨c.committed, p⟩)

/-- A computation in the open transaction. -/
def inSession (c : Call Session α) : Call (Session × σ) α :=
  c.focus Prod.fst fun w c => (c, w.2)

/-- A request to the provider while a transaction is open. -/
def besideSession (c : Call σ α) : Call (Session × σ) α :=
  c.focus Prod.snd fun w p => (w.1, p)

@[simp] theorem on_onStore (c : Call Store α) (w : World σ) :
    (onStore c : Billing σ α).on w = ((c.on w.store).1, { w with store := (c.on w.store).2 }) := rfl

@[simp] theorem on_onProvider (c : Call σ α) (w : World σ) :
    (onProvider c : Billing σ α).on w =
      ((c.on w.provider).1, { w with provider := (c.on w.provider).2 }) := rfl

@[simp] theorem on_transaction (body : Call (Session × σ) α) (w : World σ) :
    (transaction body).on w =
      let c := body.on (.start w.store, w.provider)
      (c.1, ⟨c.2.1.committed, c.2.2⟩) := rfl

@[simp] theorem on_inSession (c : Call Session α) (w : Session × σ) :
    (inSession c : Call (Session × σ) α).on w = ((c.on w.1).1, (c.on w.1).2, w.2) := rfl

@[simp] theorem on_besideSession (c : Call σ α) (w : Session × σ) :
    (besideSession c : Call (Session × σ) α).on w = ((c.on w.2).1, w.1, (c.on w.2).2) := rfl

end Billing

end OrgBilling
