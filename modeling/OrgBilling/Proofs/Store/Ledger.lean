import OrgBilling.Proofs.Keys
import OrgBilling.Proofs.Store.Change

/-!
# The rows of the ledger

What claiming an event and recording a result do to the row of the event and to the rows of other
events. Changes of the other tables do nothing to either.
-/

namespace OrgBilling.Store.Ledger

open Transaction

variable {s s' : Store} {id eventId : String}

theorem eventId_of_row? {d : Delivery} (h : row? id s = some d) : d.eventId = id := by
  simpa using List.find?_some h

theorem mem_of_row? {d : Delivery} (h : row? id s = some d) : d ∈ s.deliveries :=
  List.mem_of_find?_eq_some h

theorem row?_congr (h : s'.deliveries = s.deliveries) : row? id s' = row? id s := by
  rw [row?, h, row?]

/-! ### Changing rows -/

/-- What `f` keeps of every row is kept where only the rows of one event change. -/
theorem apply_change {β : Type} {g : Delivery → β} {f : Delivery → Delivery}
    (hf : ∀ d, g (f d) = g d) (eventId : String) (d : Delivery) :
    g (if d.eventId = eventId then f d else d) = g d := by
  split
  · exact hf d
  · rfl

section Change

variable {f : Delivery → Delivery} (hf : ∀ d, (f d).eventId = d.eventId)

include hf

theorem row?_change (s : Store) :
    row? id { s with deliveries := change eventId f s.deliveries } =
      (row? id s).map fun d => if d.eventId = eventId then f d else d := by
  rw [row?, change, List.find?_map, beq_comp_change f (fun d _ => hf d), row?]

theorem row?_change_self (s : Store) :
    row? id { s with deliveries := change id f s.deliveries } = (row? id s).map f := by
  rw [row?_change hf]
  cases h : row? id s with
  | none => rfl
  | some d => simp [eventId_of_row? h]

theorem row?_change_ne (s : Store) (hne : id ≠ eventId) :
    row? id { s with deliveries := change eventId f s.deliveries } = row? id s := by
  rw [row?_change hf]
  cases h : row? id s with
  | none => rfl
  | some d => simp [eventId_of_row? h, hne]

end Change

theorem row?_recorded (eventId : String) (state : DeliveryState) (errorMessage : Option String)
    (s : Store) :
    row? eventId (recorded eventId state errorMessage s) =
      (row? eventId s).map fun d => { d with state, errorMessage } :=
  row?_change_self (f := fun d => { d with state, errorMessage }) (fun _ => rfl) s

theorem row?_recorded_ne (state : DeliveryState) (errorMessage : Option String) (s : Store)
    (hne : id ≠ eventId) : row? id (recorded eventId state errorMessage s) = row? id s :=
  row?_change_ne (f := fun d => { d with state, errorMessage }) (fun _ => rfl) s hne

/-! ### Claiming -/

/-- A claim leaves the other tables and the rows of other events alone. -/
theorem row?_claim_ne {now : Int} {eventType : String} {r : Bool}
    (h : Commits (claim now eventId eventType) s r s') (hne : id ≠ eventId) :
    row? id s' = row? id s := by
  rcases commits_claim.1 h with ⟨-, -, ⟨-, -, -, rfl⟩ | ⟨d, -, ⟨-, -, rfl⟩ | ⟨-, -, rfl⟩⟩⟩
  · simp [row?, hne.symm]
  · exact row?_change_ne (f := restart now) (fun _ => rfl) s hne
  · rfl

/-- After a claim that succeeds the row says that an attempt has begun. -/
theorem row?_claim {now : Int} {eventType : String}
    (h : Commits (claim now eventId eventType) s true s') :
    ∃ d, row? eventId s' = some d ∧ d.state = .processing ∧ d.errorMessage = none ∧
      d.startedAt = now ∧ d.eventType = ((row? eventId s).map (·.eventType)).getD eventType := by
  rcases commits_claim.1 h with ⟨-, -, ⟨hnone, -, -, rfl⟩ | ⟨d, hd, ⟨-, -, rfl⟩ | ⟨-, hfalse, -⟩⟩⟩
  · refine ⟨⟨nextId s, eventId, eventType, .processing, none, now, now⟩, ?_, rfl, rfl, rfl, ?_⟩
    · have : s.deliveries.find? (·.eventId == eventId) = none := hnone
      simp [row?, this]
    · simp [hnone]
  · have : row? eventId { s with deliveries := change eventId (restart now) s.deliveries } =
        (row? eventId s).map (restart now) := row?_change_self (f := restart now) (fun _ => rfl) s
    refine ⟨restart now d, by rw [this, hd]; rfl, rfl, rfl, rfl, ?_⟩
    simp [hd, restart]
  · cases hfalse

/-- A claim of a new event fails if the index does not take its id. -/
theorem run_claim_of_refusal {now : Int} {eventType : String} {cause : DatabaseError}
    (hid : isStorable eventId = true) (ht : isStorable eventType = true)
    (hnew : row? eventId s = none) (hcause : Index.refusal? eventIndex [eventId] = some cause) :
    (claim now eventId eventType).run s = .error (.database cause) := by
  rw [claim, run_requireTexts_bind (by simpa using ⟨hid, ht⟩), run_get_bind, hnew]
  exact run_bind_of_error (run_requireIndexable hcause)

/-- A claim changes nothing but the ledger. -/
theorem tables_claim {now : Int} {eventType : String} {r : Bool}
    (h : Commits (claim now eventId eventType) s r s') :
    s' = { s with deliveries := s'.deliveries } := by
  rcases commits_claim.1 h with ⟨-, -, ⟨-, -, -, rfl⟩ | ⟨d, -, ⟨-, -, rfl⟩ | ⟨-, -, rfl⟩⟩⟩ <;> rfl

/-- A claim writes no row but the one of its event. -/
theorem mem_of_mem_claim {now : Int} {eventType : String} {r : Bool} {d : Delivery}
    (h : Commits (claim now eventId eventType) s r s') (hd : d ∈ s'.deliveries) :
    d.eventId = eventId ∨ d ∈ s.deliveries := by
  rcases commits_claim.1 h with ⟨-, -, ⟨-, -, -, rfl⟩ | ⟨_, -, ⟨-, -, rfl⟩ | ⟨-, -, rfl⟩⟩⟩
  · rcases List.mem_append.1 hd with hd | hd
    · exact .inr hd
    · rw [List.mem_singleton.1 hd]
      exact .inl rfl
  · obtain ⟨d₀, hd₀, rfl⟩ := List.mem_map.1 hd
    split
    · next hid => exact .inl hid
    · exact .inr hd₀
  · exact .inr hd

theorem mem_of_mem_recorded {state : DeliveryState} {errorMessage : Option String} {d : Delivery}
    (hd : d ∈ (recorded eventId state errorMessage s).deliveries) :
    (d.eventId = eventId ∧ d.state = state) ∨ (d.eventId ≠ eventId ∧ d ∈ s.deliveries) := by
  obtain ⟨d₀, hd₀, rfl⟩ := List.mem_map.1 hd
  split
  · next hid => exact .inl ⟨hid, rfl⟩
  · next hid => exact .inr ⟨hid, hd₀⟩

/-! ### Ids of events -/

/-- The ledger holds texts for the ids of events. -/
def Textual (s : Store) : Prop :=
  ∀ d ∈ s.deliveries, isStorable d.eventId = true

theorem Textual.change (h : Textual s) (hc : Store.Change s s') : Textual s' := by
  rw [Textual, hc.deliveries]
  exact h

theorem Textual.ledgerChange (h : Textual s) (hc : Ledger.Change s s') : Textual s' := by
  cases hc with
  | first id new storable fits state =>
    intro d hd
    rcases List.mem_append.1 hd with hd | hd
    · exact h d hd
    · rwa [List.mem_singleton.1 hd]
  | edit eventId f id event state =>
    intro d' hd'
    obtain ⟨d, hd, rfl⟩ := List.mem_map.1 hd'
    rw [apply_change (g := (·.eventId)) event]
    exact h d hd

/-- For this it does not matter which ids the rows of the other tables have. -/
theorem Textual.evolves (h : Textual s) (he : Evolves s s') : Textual s' := by
  induction he with
  | refl => exact h
  | tail _ hc ih => exact hc.elim ih.change ih.ledgerChange

/-! ### Rows of the application -/

/-- The rows are as the application writes them. -/
structure Written (s : Store) : Prop where
  fits : ∀ d ∈ s.deliveries, Index.refusal? eventIndex [d.eventId] = none
  state : ∀ d ∈ s.deliveries, ∀ name, d.state ≠ .other name

theorem Written.empty : Written .empty := ⟨by simp [Store.empty], by simp [Store.empty]⟩

theorem Written.change (h : Written s) (hc : Store.Change s s') : Written s' := by
  have heq := hc.deliveries
  exact ⟨heq ▸ h.fits, heq ▸ h.state⟩

theorem Written.ledgerChange (h : Written s) (hc : Ledger.Change s s') : Written s' := by
  cases hc with
  | first id new storable fits state =>
    constructor
    · intro d hd
      rcases List.mem_append.1 hd with hd | hd
      · exact h.fits d hd
      · rwa [List.mem_singleton.1 hd]
    · intro d hd name
      rcases List.mem_append.1 hd with hd | hd
      · exact h.state d hd name
      · rw [List.mem_singleton.1 hd, state]
        simp
  | edit eventId f id event state =>
    constructor
    · intro d' hd'
      obtain ⟨d, hd, rfl⟩ := List.mem_map.1 hd'
      rw [apply_change (g := (·.eventId)) event]
      exact h.fits d hd
    · intro d' hd' name
      obtain ⟨d, hd, rfl⟩ := List.mem_map.1 hd'
      split
      · exact state d name
      · exact h.state d hd name

/-- The application writes the ledger however the database evolves. -/
theorem Written.evolves (h : Written s) (he : Evolves s s') : Written s' := by
  induction he with
  | refl => exact h
  | tail _ hc ih => exact hc.elim ih.change ih.ledgerChange

end OrgBilling.Store.Ledger
