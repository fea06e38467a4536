import OrgBilling.Proofs.Transaction
import OrgBilling.Store.Session

/-!
# What a transaction of several statements comes to

A computation in an open transaction may commit at any point, and more than once, so not every one
of them happens in one piece. Those do that run their statements first and commit last: they come to
a single `Transaction` (`Performs`), which is built up here statement by statement. A failure between
two statements is a failure of the whole, with nothing committed, and opening a transaction for such
a computation is the same as committing what it comes to (`Performs.transaction_eq`).
-/

namespace OrgBilling

open Transaction

variable {α β : Type}

/-- The computation comes to `t`. Where `t` succeeds, it ends with the same result and has committed
everything; where `t` fails, it fails with the same error and has committed nothing. -/
def Performs (body : Call Session α) (t : Transaction α) : Prop :=
  ∀ c : Session, match t.run c.working with
    | .ok (a, s) => body.on c = (.ok a, ⟨s, s⟩)
    | .error e => ∃ u, body.on c = (.error e, ⟨c.committed, u⟩)

namespace Session

theorem on_execute_ok {t : Transaction α} {c : Session} {a : α} {s : Store}
    (h : t.run c.working = .ok (a, s)) :
    (execute t).on c = (.ok a, { c with working := s }) := by
  rw [execute, Call.on_focus, commit_ok h]

theorem on_execute_error {t : Transaction α} {c : Session} {e : BillingError}
    (h : t.run c.working = .error e) : (execute t).on c = (.error e, c) := by
  rw [execute, Call.on_focus, commit_error h]

end Session

open Session (execute)

theorem performs_commit : Performs Session.commit (pure ()) := fun _ => rfl

/-- The commit comes last; what follows it does nothing any more. -/
theorem performs_commit_pure (a : α) :
    Performs (do Session.commit; pure a) (pure a) := fun _ => rfl

theorem performs_throw (e : BillingError) :
    Performs (throw e : Call Session α) (throw e) := fun c => ⟨c.working, rfl⟩

/-- A statement comes first. If it fails, or anything after it, nothing has been committed. -/
theorem Performs.execute_bind {t : Transaction α} {f : α → Call Session β} {g : α → Transaction β}
    (h : ∀ a, Performs (f a) (g a)) : Performs (execute t >>= f) (t >>= g) := by
  intro c
  rw [StateT.run_bind, Call.on_bind]
  cases ht : t.run c.working with
  | ok r =>
    obtain ⟨a, s⟩ := r
    rw [Session.on_execute_ok ht]
    exact h a { c with working := s }
  | error e =>
    rw [Session.on_execute_error ht]
    exact ⟨c.working, rfl⟩

/-- The last statement gives the result. -/
theorem performs_execute_commit (t : Transaction α) :
    Performs (do let a ← execute t; Session.commit; pure a) t := by
  have h : Performs _ (t >>= pure) := .execute_bind fun a => performs_commit_pure a
  rwa [bind_pure] at h

/-- A transaction for a computation that comes to `t` commits `t`. -/
theorem Performs.transaction_eq {body : Call Session α} {t : Transaction α} (h : Performs body t) :
    transaction body = commit t := by
  refine Call.ext_on fun s => ?_
  have hbody := h (.start s)
  rw [transaction, Call.on_ofFunction]
  cases ht : t.run s with
  | ok r =>
    simp only [Session.start, ht] at hbody
    rw [Session.start, hbody, commit_ok ht]
  | error e =>
    simp only [Session.start, ht] at hbody
    obtain ⟨u, hu⟩ := hbody
    rw [Session.start, hu, commit_error ht]

theorem commit_congr {t u : Transaction α} (h : ∀ s, t.run s = u.run s) : commit t = commit u :=
  congrArg commit (funext h)

/-- What is only read may be read in a piece with what follows. -/
theorem commit_bind_of_reads {t : Transaction α} {f : α → Transaction β} (h : Reads t) :
    (commit t >>= fun a => commit (f a)) = commit (t >>= f) := by
  refine Call.ext_on fun s => ?_
  rw [Call.on_bind]
  cases ht : t.run s with
  | ok r =>
    obtain ⟨a, u⟩ := r
    obtain rfl : u = s := h s a u ht
    rw [commit_ok ht]
    have hrun : (t >>= f).run u = (f a).run u := by
      rw [StateT.run_bind, ht]
      rfl
    simp only [commit, Call.on_ofFunction, hrun]
  | error e => rw [commit_error ht, commit_error (run_bind_of_error ht)]

end OrgBilling
