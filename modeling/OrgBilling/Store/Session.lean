import OrgBilling.Store.Basic

/-!
# Transactions of several statements

A `Session` is the inside of an open transaction. It holds the tables twice: as they were committed
last, which is what everybody else sees, and as the statements of the transaction have left them. A
statement works on the latter (`Session.execute`), and `Session.commit` makes them the former.

A transaction ends when the computation that opened it is left (`transaction`). What it has not
committed by then is undone, and so a computation that fails between two of its statements leaves
the tables as they were.
-/

namespace OrgBilling

/-- The tables in an open transaction. -/
structure Session where
  /-- As they were committed last. -/
  committed : Store
  /-- As the statements of the transaction have left them. -/
  working : Store

namespace Session

/-- A transaction begins with the tables as they are. -/
def start (s : Store) : Session := ⟨s, s⟩

/-- Run a statement. One that fails does nothing, but what was done before it is still there. -/
def execute {α : Type} (t : Transaction α) : Call Session α :=
  (OrgBilling.commit t).focus working fun c s => { c with working := s }

/-- Make lasting what the statements have done. -/
def commit : Call Session Unit :=
  modify fun c => { c with committed := c.working }

end Session

/-- Open a transaction, and leave it when the computation ends, with a value or with an error. -/
def transaction {α : Type} (body : Call Session α) : Call Store α :=
  Call.ofFunction fun s =>
    let (r, c) := body.on (.start s)
    (r, c.committed)

end OrgBilling
