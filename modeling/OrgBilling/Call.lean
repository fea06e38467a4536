import OrgBilling.Error

/-!
# Computations that may fail

`Call σ α` is a computation on a state of type `σ` that ends with a value or with a billing error.
The state survives an error: what was done before the failure stays done. `Call.on` runs one, and
the lemmas here say what running does to each way of putting computations together, so that later
proofs need not look inside the type.
-/

namespace OrgBilling

/-- A computation that may fail and works on a state of type `σ`, which it keeps when it fails. -/
abbrev Call (σ : Type) := ExceptT BillingError (StateM σ)

namespace Call

variable {σ τ α β : Type}

/-- Run a computation on a state. -/
def on (c : Call σ α) (s : σ) : Except BillingError α × σ :=
  c.run.run s

/-- The computation that does what a function says. -/
def ofFunction (f : σ → Except BillingError α × σ) : Call σ α :=
  ExceptT.mk (StateT.mk f)

/-- Two computations with the same runs are the same. -/
theorem ext_on {c d : Call σ α} (h : ∀ s, c.on s = d.on s) : c = d :=
  funext h

@[simp] theorem on_ofFunction (f : σ → Except BillingError α × σ) (s : σ) :
    (ofFunction f).on s = f s := rfl

@[simp] theorem on_pure (a : α) (s : σ) : on (pure a : Call σ α) s = (.ok a, s) := rfl

@[simp] theorem on_throw (e : BillingError) (s : σ) :
    on (throw e : Call σ α) s = (.error e, s) := rfl

@[simp] theorem on_get (s : σ) : on (get : Call σ σ) s = (.ok s, s) := rfl

@[simp] theorem on_set (s s' : σ) : on (set s' : Call σ PUnit) s = (.ok ⟨⟩, s') := rfl

@[simp] theorem on_modify (f : σ → σ) (s : σ) :
    on (modify f : Call σ PUnit) s = (.ok ⟨⟩, f s) := rfl

@[simp] theorem on_modifyGet (f : σ → α × σ) (s : σ) :
    on (modifyGet f : Call σ α) s = (.ok (f s).1, (f s).2) := rfl

/-- One computation after another: the second one runs if the first one succeeds. -/
theorem on_bind (c : Call σ α) (f : α → Call σ β) (s : σ) :
    on (c >>= f) s =
      match c.on s with
      | (.ok a, s') => (f a).on s'
      | (.error e, s') => (.error e, s') := by
  change ((ExceptT.bindCont f) ((c s).1)) (c s).2 = _
  unfold on
  change _ = match c s with
    | (.ok a, s') => (f a) s'
    | (.error e, s') => (.error e, s')
  rcases c s with ⟨r, s'⟩
  cases r <;> rfl

/-- Run a computation and hand its outcome on, be it a value or an error. -/
def attempt (c : Call σ α) : Call σ (Except BillingError α) :=
  ofFunction fun s => (.ok (c.on s).1, (c.on s).2)

@[simp] theorem on_attempt (c : Call σ α) (s : σ) :
    c.attempt.on s = (.ok (c.on s).1, (c.on s).2) := rfl

/-- A computation on a part of a larger state. -/
def focus (get : τ → σ) (put : τ → σ → τ) (c : Call σ α) : Call τ α :=
  ofFunction fun t =>
    let (r, s) := c.on (get t)
    (r, put t s)

@[simp] theorem on_focus (get : τ → σ) (put : τ → σ → τ) (c : Call σ α) (t : τ) :
    (focus get put c).on t = ((c.on (get t)).1, put t (c.on (get t)).2) := rfl

end Call

end OrgBilling
