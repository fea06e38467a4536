import OrgBilling.Proofs.Store.NetEffect
import Mathlib.Logic.Relation

/-!
# What transactions and computations do to their state

A transaction either commits, with a result and a new store, or fails and leaves no store behind.
`Commits t s a s'` says the first; the lemmas `commits_*` take a transaction apart, step by step, so
that what it did can be read off the fact that it committed.

A computation keeps what it did before it failed, so of it one can only say how its state may move:
`Moves R c` says that wherever `c` starts, it stops at a state that `R` leads to, whether it ends
with a value or with an error. For a preorder `R` this holds of a computation when it holds of its
steps (`Moves.bind`), and a transaction that is committed is one such step (`moves_commit`).
-/

namespace OrgBilling

namespace Transaction

variable {α β : Type} {s s' : Store}

/-- The transaction succeeds on `s` with the result `a` and leaves `s'`. -/
def Commits (t : Transaction α) (s : Store) (a : α) (s' : Store) : Prop :=
  t.run s = .ok (a, s')

/-! ### Steps -/

theorem commits_pure {a b : α} : Commits (pure a) s b s' ↔ b = a ∧ s' = s := by
  show Except.ok (a, s) = .ok (b, s') ↔ _
  simp [eq_comm]

theorem commits_throw {e : BillingError} {b : α} : ¬ Commits (throw e) s b s' := by
  show ¬ Except.error e = .ok (b, s')
  simp

theorem commits_fail {cause : DatabaseError} {b : α} : ¬ Commits (fail cause) s b s' :=
  commits_throw

theorem commits_get {u : Store} : Commits get s u s' ↔ u = s ∧ s' = s := by
  show Except.ok (s, s) = .ok (u, s') ↔ _
  simp [eq_comm]

theorem commits_set {u : Store} {r : PUnit} : Commits (set u) s r s' ↔ s' = u := by
  show Except.ok (⟨⟩, u) = .ok (r, s') ↔ _
  simp [eq_comm]

theorem commits_modify {f : Store → Store} {r : PUnit} : Commits (modify f) s r s' ↔ s' = f s := by
  show Except.ok (⟨⟩, f s) = .ok (r, s') ↔ _
  simp [eq_comm]

theorem commits_ite {p : Prop} [Decidable p] {t u : Transaction α} {a : α} :
    Commits (if p then t else u) s a s' ↔ (p ∧ Commits t s a s') ∨ (¬ p ∧ Commits u s a s') := by
  by_cases h : p <;> simp [h]

theorem commits_require {c : Bool} {cause : DatabaseError} {r : Unit} :
    Commits (require c cause) s r s' ↔ c = true ∧ s' = s := by
  unfold require
  split
  · next h => simp [commits_pure, h]
  · next h => simp [commits_fail, h]

theorem commits_requireTexts {texts : List String} {r : Unit} :
    Commits (requireTexts texts) s r s' ↔ (∀ text ∈ texts, isStorable text = true) ∧ s' = s := by
  simp [requireTexts, commits_require]

theorem commits_requireIndexable {index : String} {texts : List String} {r : Unit} :
    Commits (requireIndexable index texts) s r s' ↔
      Store.Index.refusal? index texts = none ∧ s' = s := by
  unfold requireIndexable
  cases h : Store.Index.refusal? index texts with
  | some cause => simp [commits_fail]
  | none => simp [commits_pure]

/-! ### One step after another -/

theorem commits_bind {t : Transaction α} {f : α → Transaction β} {b : β} :
    Commits (t >>= f) s b s' ↔ ∃ a u, Commits t s a u ∧ Commits (f a) u b s' := by
  unfold Commits
  rw [StateT.run_bind]
  cases h : t.run s with
  | error e => simp [Bind.bind, Except.bind]
  | ok r =>
    obtain ⟨a, u⟩ := r
    constructor
    · exact fun hb => ⟨a, u, rfl, hb⟩
    · rintro ⟨a', u', hau, hb⟩
      cases hau
      exact hb

section Bind

variable {b : β}

theorem commits_throw_bind {e : BillingError} {f : α → Transaction β} :
    ¬ Commits (throw e >>= f) s b s' := by
  rw [commits_bind]
  rintro ⟨_, _, h, -⟩
  exact commits_throw h

/-- A step with one possible outcome comes first. -/
theorem commits_step_bind {t : Transaction α} {f : α → Transaction β} {p : Prop} {a : α} {u : Store}
    (ht : ∀ r v, Commits t s r v ↔ p ∧ r = a ∧ v = u) :
    Commits (t >>= f) s b s' ↔ p ∧ Commits (f a) u b s' := by
  simp only [commits_bind, ht]
  constructor
  · rintro ⟨_, _, ⟨hp, rfl, rfl⟩, h⟩
    exact ⟨hp, h⟩
  · rintro ⟨hp, h⟩
    exact ⟨a, u, ⟨hp, rfl, rfl⟩, h⟩

theorem commits_get_bind {f : Store → Transaction β} :
    Commits (get >>= f) s b s' ↔ Commits (f s) s b s' := by
  have hget : ∀ r v, Commits get s r v ↔ True ∧ r = s ∧ v = s := fun _ _ => by
    rw [commits_get, true_and]
  rw [commits_step_bind hget, true_and]

/-- A step without a result comes first. -/
theorem commits_unit_bind {t : Transaction Unit} {p : Prop} {u : Store} {f : Unit → Transaction β}
    (ht : ∀ r v, Commits t s r v ↔ p ∧ v = u) :
    Commits (t >>= f) s b s' ↔ p ∧ Commits (f ()) u b s' :=
  commits_step_bind fun _ _ => by simp [ht]

theorem commits_set_bind {u : Store} {f : PUnit → Transaction β} :
    Commits (set u >>= f) s b s' ↔ Commits (f ⟨⟩) u b s' := by
  have hset : ∀ r v, Commits (set u) s r v ↔ True ∧ v = u := fun _ _ => by
    rw [commits_set, true_and]
  rw [commits_unit_bind hset, true_and]

theorem commits_require_bind {c : Bool} {cause : DatabaseError} {f : Unit → Transaction β} :
    Commits (require c cause >>= f) s b s' ↔ c = true ∧ Commits (f ()) s b s' :=
  commits_unit_bind fun _ _ => commits_require

theorem commits_requireTexts_bind {texts : List String} {f : Unit → Transaction β} :
    Commits (requireTexts texts >>= f) s b s' ↔
      (∀ text ∈ texts, isStorable text = true) ∧ Commits (f ()) s b s' :=
  commits_unit_bind fun _ _ => commits_requireTexts

theorem commits_requireIndexable_bind {index : String} {texts : List String}
    {f : Unit → Transaction β} :
    Commits (requireIndexable index texts >>= f) s b s' ↔
      Store.Index.refusal? index texts = none ∧ Commits (f ()) s b s' :=
  commits_unit_bind fun _ _ => commits_requireIndexable

theorem commits_fit_bind {limit : Nat} {text : String} {f : String → Transaction β} :
    Commits (fit limit text >>= f) s b s' ↔
      ((text.toList.drop limit).all (· == ' ')) = true ∧
        Commits (f (String.ofList (text.toList.take limit))) s b s' :=
  commits_step_bind fun r u => by simp only [fit, commits_require_bind, commits_pure]

/-- A test of what there may be. -/
theorem commits_option_forM_bind {γ : Type} {o : Option γ} {t : γ → Transaction Unit} {p : γ → Prop}
    {f : Unit → Transaction β} (ht : ∀ x r u v, Commits (t x) u r v ↔ p x ∧ v = u) :
    Commits (o.forM t >>= f) s b s' ↔ (∀ x, o = some x → p x) ∧ Commits (f ()) s b s' := by
  refine commits_unit_bind fun r u => ?_
  cases o with
  | none => simp [Option.forM, commits_pure]
  | some x => simp [Option.forM, ht]

/-- A test of every item of a list. -/
theorem commits_forM_bind {γ : Type} {xs : List γ} {t : γ → Transaction Unit} {p : γ → Prop}
    {f : Unit → Transaction β} (ht : ∀ x r u v, Commits (t x) u r v ↔ p x ∧ v = u) :
    Commits (xs.forM t >>= f) s b s' ↔ (∀ x ∈ xs, p x) ∧ Commits (f ()) s b s' := by
  refine commits_unit_bind fun r u => ?_
  induction xs with
  | nil => simp [commits_pure]
  | cons x xs ih =>
    show Commits (t x >>= fun _ => xs.forM t) s r u ↔ _
    rw [commits_unit_bind (fun _ _ => ht x _ _ _), ih]
    simp [and_assoc]

end Bind

/-! ### Failing -/

section Run

variable {f : Unit → Transaction β}

theorem run_get_bind {f : Store → Transaction β} : (get >>= f).run s = (f s).run s := by
  rw [StateT.run_bind]
  rfl

theorem run_set_bind {u : Store} {f : PUnit → Transaction β} :
    (set u >>= f).run s = (f ⟨⟩).run u := by
  rw [StateT.run_bind]
  rfl

theorem run_requireTexts_bind {texts : List String} (h : ∀ text ∈ texts, isStorable text = true) :
    (requireTexts texts >>= f).run s = (f ()).run s := by
  rw [StateT.run_bind, requireTexts, require, if_pos (List.all_eq_true.2 h)]
  rfl

theorem run_require_bind {c : Bool} {cause : DatabaseError} (h : c = true) :
    (require c cause >>= f).run s = (f ()).run s := by
  rw [StateT.run_bind, require, if_pos h]
  rfl

end Run

/-- After the same first step, transactions go on alike if they do so from where it leads. -/
theorem run_bind_congr {t : Transaction α} {f g : α → Transaction β}
    (h : ∀ a u, Commits t s a u → (f a).run u = (g a).run u) :
    (t >>= f).run s = (t >>= g).run s := by
  rw [StateT.run_bind, StateT.run_bind]
  cases ht : t.run s with
  | ok r => exact h r.1 r.2 ht
  | error e => rfl

theorem run_bind_of_error {t : Transaction α} {f : α → Transaction β} {e : BillingError}
    (h : t.run s = .error e) : (t >>= f).run s = .error e := by
  rw [StateT.run_bind, h]
  rfl

theorem run_require {c : Bool} {cause : DatabaseError} (h : c = false) :
    (require c cause).run s = .error (.database cause) := by
  rw [require, h]
  rfl

theorem run_requireTexts_bind_error {texts : List String} {f : Unit → Transaction β}
    (h : texts.all isStorable = false) :
    (requireTexts texts >>= f).run s = .error (.database .zeroCharacter) :=
  run_bind_of_error (run_require h)

theorem run_requireIndexable {index : String} {texts : List String} {cause : DatabaseError}
    (h : Store.Index.refusal? index texts = some cause) :
    (requireIndexable index texts).run s = .error (.database cause) := by
  rw [requireIndexable, h]
  rfl

/-! ### Reading -/

/-- The transaction leaves the store as it is. -/
def Reads (t : Transaction α) : Prop :=
  ∀ s a s', Commits t s a s' → s' = s

theorem reads_pure (a : α) : Reads (pure a) := fun _ _ _ h => (commits_pure.1 h).2

theorem reads_throw (e : BillingError) : Reads (throw e : Transaction α) :=
  fun _ _ _ h => absurd h commits_throw

theorem reads_get : Reads get := fun _ _ _ h => (commits_get.1 h).2

theorem reads_requireTexts (texts : List String) : Reads (requireTexts texts) :=
  fun _ _ _ h => (commits_requireTexts.1 h).2

theorem reads_require (c : Bool) (cause : DatabaseError) : Reads (require c cause) :=
  fun _ _ _ h => (commits_require.1 h).2

theorem Reads.bind {t : Transaction α} {f : α → Transaction β} (ht : Reads t)
    (hf : ∀ a, Reads (f a)) : Reads (t >>= f) := by
  intro s b s' h
  obtain ⟨a, u, ha, hb⟩ := commits_bind.1 h
  exact (hf a u b s' hb).trans (ht s a u ha)

end Transaction

/-! ### Computations -/

/-- A computation of two parts fails in the first or in the second. -/
theorem Call.on_bind_error {σ α β : Type} {c : Call σ α} {f : α → Call σ β} {e : BillingError}
    {w w' : σ}
    (h : (c >>= f).on w = (.error e, w')) :
    c.on w = (.error e, w') ∨ ∃ a u, c.on w = (.ok a, u) ∧ (f a).on u = (.error e, w') := by
  rw [Call.on_bind] at h
  cases hc : c.on w with | _ r u => ?_
  rw [hc] at h
  cases r with
  | ok a => exact .inr ⟨a, u, rfl, h⟩
  | error e' => cases h; exact .inl rfl

/-- A computation of two parts succeeds in the first and then in the second. -/
theorem Call.on_bind_ok {σ α β : Type} {c : Call σ α} {f : α → Call σ β} {b : β} {w w' : σ}
    (h : (c >>= f).on w = (.ok b, w')) : ∃ a u, c.on w = (.ok a, u) ∧ (f a).on u = (.ok b, w') := by
  rw [Call.on_bind] at h
  cases hc : c.on w with | _ r u => ?_
  rw [hc] at h
  cases r with
  | ok a => exact ⟨a, u, rfl, h⟩
  | error e => cases h

/-- A computation with a handler of its errors: what it did before it failed stays done. -/
theorem Call.on_tryCatch {σ α : Type} (c : Call σ α) (f : BillingError → Call σ α) (s : σ) :
    (tryCatch c f).on s =
      match c.on s with
      | (.ok a, s') => (.ok a, s')
      | (.error e, s') => (f e).on s' := by
  cases h : c.on s with | _ r s' => ?_
  have h : StateT.run c s = (r, s') := h
  unfold Call.on
  simp only [tryCatch, tryCatchThe, MonadExceptOf.tryCatch, ExceptT.tryCatch, ExceptT.run_mk,
    StateT.run_bind, h]
  cases r <;> rfl

/-- Wherever the computation starts, it stops at a state that `R` leads to. -/
def Moves {ε σ α : Type} (R : σ → σ → Prop) (c : ExceptT ε (StateM σ) α) : Prop :=
  ∀ s, R s (c.run.run s).2

section Moves

variable {ε σ α β : Type} {R : σ → σ → Prop}

theorem Moves.on {c : Call σ α} (h : Moves R c) (s : σ) : R s (c.on s).2 := h s

variable [IsPreorder σ R]

theorem moves_pure (a : α) : Moves R (pure a : ExceptT ε (StateM σ) α) := fun s => refl_of R s

theorem moves_throw (e : ε) : Moves R (throw e : ExceptT ε (StateM σ) α) := fun s => refl_of R s

theorem Moves.bind {c : ExceptT ε (StateM σ) α} {f : α → ExceptT ε (StateM σ) β} (hc : Moves R c)
    (hf : ∀ a, Moves R (f a)) : Moves R (c >>= f) := by
  intro s
  have h := hc s
  change R s (c s).2 at h
  show R s (ExceptT.bindCont f (c s).1 (c s).2).2
  generalize c s = r at h ⊢
  rcases r with ⟨a | a, u⟩
  · exact h
  · exact trans_of R h (hf a u)

end Moves

/-- From a state with `I` the computation, if it ends with a value, comes to one with `J`. -/
def Ensures {σ α : Type} (I : σ → Prop) (c : Call σ α) (J : α → σ → Prop) : Prop :=
  ∀ s a s', I s → c.on s = (.ok a, s') → J a s'

section Ensures

variable {σ α β : Type} {I : σ → Prop} {J : α → σ → Prop} {K : β → σ → Prop}

theorem ensures_pure {a : α} (h : ∀ s, I s → J a s) : Ensures I (pure a) J := by
  intro s b s' hs hon
  cases hon
  exact h s hs

theorem Ensures.bind {c : Call σ α} {f : α → Call σ β} (hc : Ensures I c J)
    (hf : ∀ a, Ensures (J a) (f a) K) : Ensures I (c >>= f) K := by
  intro s b s' hs hon
  obtain ⟨a, u, ha, hb⟩ := Call.on_bind_ok hon
  exact hf a u b s' (hc s a u hs ha) hb

end Ensures

/-- From a state with `I` the computation ends with a value and comes to a state with `J`, or it fails
and leaves a state with `E`. -/
def Ends {σ α : Type} (I : σ → Prop) (c : Call σ α) (J : α → σ → Prop) (E : σ → Prop) : Prop :=
  ∀ s, I s → match c.on s with
    | (.ok a, s') => J a s'
    | (.error _, s') => E s'

section Ends

variable {σ α β : Type} {I E : σ → Prop} {J : α → σ → Prop} {K : β → σ → Prop}

theorem ends_pure {a : α} (h : ∀ s, I s → J a s) : Ends I (pure a) J E := h

theorem Ends.bind {c : Call σ α} {f : α → Call σ β} (hc : Ends I c J E)
    (hf : ∀ a, Ends (J a) (f a) K E) : Ends I (c >>= f) K E := by
  intro s hs
  have first := hc s hs
  rw [Call.on_bind]
  cases h : c.on s with | _ r u => ?_
  rw [h] at first
  cases r with
  | ok a => exact hf a u first
  | error e => exact first

end Ends

/-- What every step keeps, a row of steps keeps. -/
theorem keeps_of_steps {α : Type} {r : α → α → Prop} {P : α → Prop}
    (step : ∀ a b, r a b → P a → P b) {a b : α} (h : Relation.ReflTransGen r a b) (ha : P a) :
    P b := by
  induction h with
  | refl => exact ha
  | tail _ h ih => exact step _ _ h ih

/-! ### Transactions of computations -/

section Commit

variable {α : Type} {t : Transaction α} {s s' : Store}

/-- A transaction of a computation either commits or leaves the store as it was. -/
theorem commit_cases (t : Transaction α) (s : Store) :
    (∃ a s', Transaction.Commits t s a s' ∧ (commit t).on s = (.ok a, s')) ∨
      ∃ e, t.run s = .error e ∧ (commit t).on s = (.error e, s) := by
  cases h : t.run s with
  | ok r => exact .inl ⟨r.1, r.2, h, commit_ok h⟩
  | error e => exact .inr ⟨e, rfl, commit_error h⟩

theorem commit_on_ok {a : α} (h : (commit t).on s = (.ok a, s')) :
    Transaction.Commits t s a s' := by
  rcases commit_cases t s with ⟨b, u, hb, hu⟩ | ⟨e', -, hs⟩
  · rw [hu] at h; cases h; exact hb
  · rw [hs] at h; cases h

theorem commit_on_error {e : BillingError} (h : (commit t).on s = (.error e, s')) : s' = s := by
  rcases commit_cases t s with ⟨a, u, -, hu⟩ | ⟨e', -, hs⟩
  · rw [hu] at h; cases h
  · rw [hs] at h; cases h; rfl

theorem run_of_commit_error {e : BillingError} (h : (commit t).on s = (.error e, s')) :
    t.run s = .error e := by
  rcases commit_cases t s with ⟨a, u, -, hu⟩ | ⟨e', he, hs⟩
  · rw [hu] at h; cases h
  · rw [hs] at h; cases h; exact he

section Eq

variable {c : Call Store α} (hc : c = commit t)

include hc

theorem commits_of_eq_commit {a : α} (h : c.on s = (.ok a, s')) : Transaction.Commits t s a s' :=
  commit_on_ok (hc ▸ h)

theorem run_of_eq_commit {e : BillingError} (h : c.on s = (.error e, s')) : t.run s = .error e :=
  run_of_commit_error (hc ▸ h)

theorem unchanged_of_eq_commit {e : BillingError} (h : c.on s = (.error e, s')) : s' = s :=
  commit_on_error (hc ▸ h)

end Eq

/-- A transaction that fails moves nothing, and one that commits moves the store where it says. -/
theorem moves_commit {R : Store → Store → Prop} [IsPreorder Store R]
    (h : ∀ s a s', Transaction.Commits t s a s' → R s s') : Moves R (commit t) := by
  intro s
  show R s ((commit t).on s).2
  rcases commit_cases t s with ⟨a, s', ha, hs'⟩ | ⟨e, -, hs⟩
  · rw [hs']; exact h s a s' ha
  · rw [hs]; exact refl_of R s

theorem moves_of_eq_commit {R : Store → Store → Prop} [IsPreorder Store R] {c : Call Store α}
    (hc : c = commit t) (h : ∀ s a s', Transaction.Commits t s a s' → R s s') : Moves R c :=
  hc ▸ moves_commit h

end Commit

end OrgBilling
