import OrgBilling.Proofs.Store.Order
import OrgBilling.Proofs.Webhook.Refinement
import OrgBilling.Proofs.Webhook.StatusUpdate
import OrgBilling.Proofs.Webhook.Wording

/-!
# The ledger sums up the deliveries

From an empty ledger on, the rows of the ledger say in short how the calls went that handled events:
there is a row for each id that was delivered, in the order of first deliveries; it keeps the time and
the type of the first delivery, and it says that the event has been applied, or why the last call
failed (`summarizes_deliveries`). An event whose id is too long for the index of the ledger leaves no
row.

What one call does to the rows does not depend on the other tables (`RowStep`). That the rows sum up
a log (`Summary`) is kept by one call more (`Summary.concat`), hence by any number of calls.

The ledger is listed by the times of the rows, newest first, and rows of the same time come in any
order. If the times of the calls increase, the list is that of the first deliveries backwards
(`arrange_eq_reverse`).
-/

namespace OrgBilling.Webhook

open Store Transaction

/-- How a call that handled an event ended. -/
abbrev Ending := Except BillingError HandlingResult

/-! ### What is to be summed up -/

/-- How the calls for the event with an id ended. -/
def endings (id : String) (log : List (Event × Ending)) : List Ending :=
  (log.filter (·.1.id == id)).map (·.2)

/-- When the event with an id was delivered first, and the type that it had then. -/
def firstDelivery? (id : String) (calls : List (Int × Event)) : Option (Int × String) :=
  (calls.find? (·.2.id == id)).map fun c => (c.1, c.2.type)

/-- The ids that the ledger can hold, in the order in which they first occur. -/
def recordableIds (es : List Event) : List String :=
  ((es.filter (·.isRecordable)).map (·.id)).eraseDups

/-- The call did not just find out that there is nothing to do. -/
def isAttempt : Ending → Bool
  | .ok .duplicate => false
  | _ => true

/-- The last attempt among calls that ended so was a failure. -/
def lastAttemptFailed (endings : List Ending) : Bool :=
  (endings.filter isAttempt).getLast?.any fun r => !r.isOk

section Log

variable {id : String} {log : List (Event × Ending)} {e : Event} {r : Ending}

theorem endings_concat_self : endings e.id (log ++ [(e, r)]) = endings e.id log ++ [r] := by
  simp [endings, List.filter_append]

theorem endings_concat_of_ne (h : e.id ≠ id) : endings id (log ++ [(e, r)]) = endings id log := by
  simp [endings, List.filter_append, h]

theorem firstDelivery?_concat_of_some {calls : List (Int × Event)} {c : Int × Event}
    {first : Int × String} (h : firstDelivery? id calls = some first) :
    firstDelivery? id (calls ++ [c]) = some first := by
  obtain ⟨x, hx, rfl⟩ := Option.map_eq_some_iff.1 h
  simp [firstDelivery?, List.find?_append, hx]

theorem isRecordable_of_mem {es : List Event} (h : e.id ∈ recordableIds es) :
    e.isRecordable = true := by
  obtain ⟨e', he', hid⟩ := List.mem_map.1 (List.mem_eraseDups.1 h)
  have := (List.mem_filter.1 he').2
  rwa [Event.isRecordable, hid, ← Event.isRecordable] at this

theorem mem_recordableIds {es : List Event} (h : e ∈ es) (he : e.isRecordable = true) :
    e.id ∈ recordableIds es :=
  List.mem_eraseDups.2 (List.mem_map_of_mem (List.mem_filter.2 ⟨h, he⟩))

/-- An event that the ledger can hold adds its id if that has not occurred before. -/
theorem recordableIds_concat (es : List Event) (he : e.isRecordable = true) :
    recordableIds (es ++ [e]) =
      if e.id ∈ recordableIds es then recordableIds es else recordableIds es ++ [e.id] := by
  simp only [recordableIds, List.filter_append, List.filter_singleton, he, cond_true,
    List.map_append, List.map_singleton, eraseDups_concat, List.mem_eraseDups]

theorem recordableIds_concat_of_not (es : List Event) (he : e.isRecordable = false) :
    recordableIds (es ++ [e]) = recordableIds es := by
  simp [recordableIds, List.filter_append, he]

end Log

/-! ### One call -/

/-- What a row says of an attempt that ended so. -/
inductive Tells : Ending → DeliveryState → Option String → Prop
  /-- The event has been applied. -/
  | applied (a : Action) : Tells (.ok (.applied a)) .success none
  /-- The attempt failed. -/
  | failed (err : BillingError) : Tells (.error err) .failed (some err.message)

/-- The row says how an attempt ended that was made just now. -/
def attempted (now : Int) (state : DeliveryState) (errorMessage : Option String) (d : Delivery) :
    Delivery :=
  { d with state, errorMessage, startedAt := now }

/-- What a call for a plain event does to the rows of the ledger. -/
inductive RowStep (now : Int) (e : Event) (rows : List Delivery) : Ending → List Delivery → Prop
  /-- The index of the ledger does not take the event. -/
  | refused {cause : DatabaseError} (new : ∀ d ∈ rows, d.eventId ≠ e.id)
      (long : e.isRecordable = false) : RowStep now e rows (.error (.database cause)) rows
  /-- There is nothing to do. -/
  | duplicate {d : Delivery} (mem : d ∈ rows) (id : d.eventId = e.id) (final : d.state ≠ .failed) :
      RowStep now e rows (.ok .duplicate) rows
  /-- The first attempt. -/
  | first {r : Ending} {id : Uuid} {state : DeliveryState} {errorMessage : Option String}
      (new : ∀ d ∈ rows, d.eventId ≠ e.id) (fits : e.isRecordable = true)
      (tells : Tells r state errorMessage) :
      RowStep now e rows r (rows ++ [⟨id, e.id, e.type, state, errorMessage, now, now⟩])
  /-- Another attempt. -/
  | again {r : Ending} {d : Delivery} {state : DeliveryState} {errorMessage : Option String}
      (mem : d ∈ rows) (id : d.eventId = e.id) (claimable : Ledger.isClaimable now d = true)
      (tells : Tells r state errorMessage) :
      RowStep now e rows r (Ledger.change e.id (attempted now state errorMessage) rows)

section Step

variable {s s' : Store} {now : Int} {e : Event} {r : Ending}

theorem ne_of_row? (h : Ledger.row? e.id s = none) : ∀ d ∈ s.deliveries, d.eventId ≠ e.id :=
  fun d hd => by simpa using List.find?_eq_none.1 h d hd

/-- Recording a result after a claim makes a new row, or changes the one there is. -/
theorem rowStep_of_recorded {s₁ s₂ : Store} {p : Except BillingError Action}
    {state : DeliveryState} {errorMessage : Option String}
    (claim : Commits (Ledger.claim now e.id e.type) s true s₁)
    (process : (process e).on s₁ = (p, s₂))
    (tells : Tells r state errorMessage) :
    RowStep now e s.deliveries r (Ledger.recorded e.id state errorMessage s₂).deliveries := by
  have hprocess : s₂.deliveries = s₁.deliveries := deliveries_process process
  show RowStep now e _ r (Ledger.change e.id _ s₂.deliveries)
  rw [hprocess]
  rcases commits_claim.1 claim with
    ⟨hid, -, ⟨hnew, hfits, -, rfl⟩ | ⟨d, hd, ⟨hclaimable, -, rfl⟩ | ⟨-, hfalse, -⟩⟩⟩
  · have hfits : e.isRecordable = true := by simp [Event.isRecordable, hid, hfits]
    have hrows : Ledger.change e.id (fun d => { d with state, errorMessage })
        (s.deliveries ++ [⟨Ledger.nextId s, e.id, e.type, .processing, none, now, now⟩]) =
          s.deliveries ++ [⟨Ledger.nextId s, e.id, e.type, state, errorMessage, now, now⟩] := by
      have hold : Ledger.change e.id (fun d => { d with state, errorMessage }) s.deliveries =
          s.deliveries := map_eq_self_of_find?_eq_none hnew _
      simp only [Ledger.change, List.map_append] at hold ⊢
      rw [hold]
      simp
    rw [hrows]
    exact .first (ne_of_row? hnew) hfits tells
  · have hrows : Ledger.change e.id (fun d => { d with state, errorMessage })
        (Ledger.change e.id (Ledger.restart now) s.deliveries) =
          Ledger.change e.id (attempted now state errorMessage) s.deliveries := by
      rw [Ledger.change, Ledger.change, List.map_map]
      refine List.map_congr_left fun d _ => ?_
      by_cases hd : d.eventId = e.id <;> simp [hd, Ledger.restart, attempted]
    rw [hrows]
    exact .again (Ledger.mem_of_row? hd) (Ledger.eventId_of_row? hd) hclaimable tells
  · cases hfalse

/-- An event is claimed, with one result or the other, if it has a row or can have one. -/
theorem exists_claim_of_isRecordable (he : e.IsPlain)
    (h : Ledger.row? e.id s ≠ none ∨ e.isRecordable = true) :
    ∃ b s', Commits (Ledger.claim now e.id e.type) s b s' := by
  cases hrow : Ledger.row? e.id s with
  | none =>
    have hfits := Option.isNone_iff_eq_none.1 (Bool.and_eq_true_iff.1 (h.resolve_left (· hrow))).2
    exact ⟨_, _, commits_claim.2 ⟨he.id, he.type, .inl ⟨hrow, hfits, rfl, rfl⟩⟩⟩
  | some d =>
    cases hclaimable : Ledger.isClaimable now d with
    | true =>
      exact ⟨_, _, commits_claim.2 ⟨he.id, he.type, .inr ⟨d, hrow, .inl ⟨hclaimable, rfl, rfl⟩⟩⟩⟩
    | false =>
      exact ⟨_, _, commits_claim.2 ⟨he.id, he.type, .inr ⟨d, hrow, .inr ⟨hclaimable, rfl, rfl⟩⟩⟩⟩

theorem rowStep_of_handling (he : e.IsPlain) (h : Handling now e s r s') :
    RowStep now e s.deliveries r s'.deliveries := by
  cases h with
  | @refused err claim =>
    have hneither : ¬ (Ledger.row? e.id s ≠ none ∨ e.isRecordable = true) := fun h => by
      obtain ⟨b, s', hb⟩ := exists_claim_of_isRecordable he h
      rw [Commits, claim] at hb
      cases hb
    obtain ⟨hnew, hlong⟩ := not_or.1 hneither
    have hnew := not_not.1 hnew
    have hlong := eq_false_of_ne_true hlong
    obtain ⟨cause, hon⟩ := handle_of_not_isRecordable hnew hlong now
    rw [(Handling.refused claim).on_eq] at hon
    cases hon
    exact .refused (ne_of_row? hnew) hlong
  | duplicate claim =>
    rcases commits_claim.1 claim with
      ⟨-, -, ⟨-, -, hfalse, -⟩ | ⟨d, hd, ⟨-, hfalse, -⟩ | ⟨hc, -, -⟩⟩⟩
    · cases hfalse
    · cases hfalse
    · refine .duplicate (Ledger.mem_of_row? hd) (Ledger.eventId_of_row? hd) fun hfailed => ?_
      simp [Ledger.isClaimable, hfailed] at hc
  | applied claim process => exact rowStep_of_recorded claim process (.applied _)
  | failed claim process storable => exact rowStep_of_recorded claim process (.failed _)
  | unrecorded claim process notStorable =>
    rw [isStorable_process he process] at notStorable
    cases notStorable

end Step

/-! ### The summary -/

/-- A row says in short how calls ended: one of them applied the event and no later one tried again,
or none did and the last one failed. -/
inductive SumsUp (rs : List Ending) (d : Delivery) : Prop
  /-- The event has been applied. -/
  | applied (a : Action) (last : (rs.filter isAttempt).getLast? = some (.ok (.applied a)))
      (state : d.state = .success) (errorMessage : d.errorMessage = none)
  /-- The event has not been applied. -/
  | failed (err : BillingError) (last : rs.getLast? = some (.error err))
      (unapplied : ∀ a, .ok (.applied a) ∉ rs) (state : d.state = .failed)
      (errorMessage : d.errorMessage = some err.message)

namespace SumsUp

variable {rs : List Ending} {d : Delivery}

theorem exists_applied (h : SumsUp rs d) (hstate : d.state ≠ .failed) :
    ∃ a, .ok (.applied a) ∈ rs := by
  cases h with
  | applied a last => exact ⟨a, (List.mem_filter.1 (List.mem_of_getLast? last)).1⟩
  | failed _ _ _ state => exact absurd state hstate

/-- An event is not attempted again once it has been applied. -/
theorem unapplied_of_claimable (h : SumsUp rs d) {now : Int}
    (hclaimable : Ledger.isClaimable now d = true) : ∀ a, .ok (.applied a) ∉ rs := by
  cases h with
  | applied a last state => simp [Ledger.isClaimable, state] at hclaimable
  | failed err last unapplied => exact unapplied

/-- The row passes a filter for errors if the last attempt failed. -/
theorem error_filter_eq (h : SumsUp rs d) :
    (some "error").all (· == d.state.name) = lastAttemptFailed rs := by
  cases h with
  | applied a last state =>
    rw [state, lastAttemptFailed, last]
    rfl
  | failed err last unapplied state =>
    have hlast : (rs.filter isAttempt).getLast? = some (.error err) := by
      obtain ⟨before, rfl⟩ := List.getLast?_eq_some_iff.1 last
      rw [List.filter_append, List.filter_cons_of_pos (by rfl), List.filter_nil,
        List.getLast?_concat]
    rw [state, lastAttemptFailed, hlast]
    rfl

/-- A call that has nothing to do changes nothing, if it follows one that applied the event. -/
theorem concat_duplicate (h : SumsUp rs d) (happlied : ∃ a, .ok (.applied a) ∈ rs) :
    SumsUp (rs ++ [.ok .duplicate]) d := by
  cases h with
  | applied a last state errorMessage =>
    refine .applied a ?_ state errorMessage
    rwa [List.filter_append, List.filter_cons_of_neg (by simp [isAttempt]), List.filter_nil,
      List.append_nil]
  | failed err last unapplied =>
    obtain ⟨a, ha⟩ := happlied
    exact absurd ha (unapplied a)

/-- What the row of a new attempt says. -/
theorem concat_of_tells {r : Ending} (unapplied : ∀ a, .ok (.applied a) ∉ rs)
    (tells : Tells r d.state d.errorMessage) : SumsUp (rs ++ [r]) d := by
  generalize hstate : d.state = state, htext : d.errorMessage = errorMessage at tells
  cases tells with
  | applied a =>
    refine .applied a ?_ hstate htext
    rw [List.filter_append, List.filter_cons_of_pos (by rfl), List.filter_nil,
      List.getLast?_concat]
  | failed err =>
    refine .failed err List.getLast?_concat (fun a ha => ?_) hstate htext
    rcases List.mem_append.1 ha with ha | ha
    · exact unapplied a ha
    · cases List.mem_singleton.1 ha

end SumsUp

/-- The rows of the ledger sum up how calls for plain events ended. -/
structure Summary (calls : List (Int × Event)) (log : List (Event × Ending))
    (rows : List Delivery) : Prop where
  events : log.map (·.1) = calls.map (·.2)
  ids : rows.map (·.eventId) = recordableIds (calls.map (·.2))
  /-- The rows were made at some of the calls. -/
  times : (rows.map (·.createdAt)).Sublist (calls.map (·.1))
  first : ∀ d ∈ rows, firstDelivery? d.eventId calls = some (d.createdAt, d.eventType)
  row : ∀ d ∈ rows, SumsUp (endings d.eventId log) d
  refused : ∀ x ∈ log, x.1.isRecordable = false → ∃ cause, x.2 = .error (.database cause)

namespace Summary

variable {calls : List (Int × Event)} {log : List (Event × Ending)} {rows : List Delivery}
  {now : Int} {e : Event} {r : Ending}

theorem nil : Summary [] [] [] := ⟨rfl, rfl, .slnil, by simp, by simp, by simp⟩

theorem mem_ids (h : Summary calls log rows) {d : Delivery} (hd : d ∈ rows) (hid : d.eventId = e.id) :
    e.id ∈ recordableIds (calls.map (·.2)) := by
  rw [← h.ids, ← hid]
  exact List.mem_map_of_mem hd

/-- An event that can have a row and has none has not been delivered. -/
theorem ne_of_new (h : Summary calls log rows) (new : ∀ d ∈ rows, d.eventId ≠ e.id)
    (fits : e.isRecordable = true) : ∀ c ∈ calls, c.2.id ≠ e.id := by
  intro c hc hid
  have hfits : c.2.isRecordable = true := by rwa [Event.isRecordable, hid, ← Event.isRecordable]
  have hmem := mem_recordableIds (List.mem_map_of_mem hc) hfits
  obtain ⟨d, hd, hdid⟩ := List.mem_map.1 (h.ids ▸ hmem)
  exact new d hd (hdid.trans hid)

theorem endings_of_new (h : Summary calls log rows) (new : ∀ d ∈ rows, d.eventId ≠ e.id)
    (fits : e.isRecordable = true) : endings e.id log = [] := by
  have none : log.filter (·.1.id == e.id) = [] := by
    refine List.filter_eq_nil_iff.2 fun x hx hid => ?_
    obtain ⟨c, hc, heq⟩ := List.mem_map.1 (h.events ▸ List.mem_map_of_mem hx)
    exact h.ne_of_new new fits c hc (by rw [heq]; exact beq_iff_eq.1 hid)
  rw [endings, none, List.map_nil]

theorem events_concat (h : Summary calls log rows) :
    (log ++ [(e, r)]).map (·.1) = (calls ++ [(now, e)]).map (·.2) := by
  rw [List.map_append, h.events, List.map_append]
  rfl

/-- A call makes no row at a time that is not its own. -/
theorem times_concat (h : Summary calls log rows) :
    (rows.map (·.createdAt)).Sublist ((calls ++ [(now, e)]).map (·.1)) := by
  rw [List.map_append]
  exact h.times.trans (List.sublist_append_left ..)

/-- Rows of other events go on to say what they said. -/
theorem row_of_ne (h : Summary calls log rows) {d : Delivery} (hd : d ∈ rows)
    (hne : d.eventId ≠ e.id) : SumsUp (endings d.eventId (log ++ [(e, r)])) d := by
  rw [endings_concat_of_ne hne.symm]
  exact h.row d hd

theorem refused_concat (h : Summary calls log rows)
    (hr : e.isRecordable = false → ∃ cause, r = .error (.database cause)) :
    ∀ x ∈ log ++ [(e, r)], x.1.isRecordable = false → ∃ cause, x.2 = .error (.database cause) := by
  intro x hx
  rcases List.mem_append.1 hx with hx | hx
  · exact h.refused x hx
  · rw [List.mem_singleton.1 hx]
    exact hr

theorem refused_concat_of_mem (h : Summary calls log rows)
    (hmem : e.id ∈ recordableIds (calls.map (·.2))) :
    ∀ x ∈ log ++ [(e, r)], x.1.isRecordable = false → ∃ cause, x.2 = .error (.database cause) :=
  h.refused_concat fun hlong => by
    rw [isRecordable_of_mem hmem] at hlong
    cases hlong

theorem concat_refused (h : Summary calls log rows) {cause : DatabaseError}
    (new : ∀ d ∈ rows, d.eventId ≠ e.id) (long : e.isRecordable = false) :
    Summary (calls ++ [(now, e)]) (log ++ [(e, .error (.database cause))]) rows where
  events := h.events_concat
  ids := by rw [h.ids, List.map_append, List.map_singleton, recordableIds_concat_of_not _ long]
  times := h.times_concat
  first d hd := firstDelivery?_concat_of_some (h.first d hd)
  row d hd := h.row_of_ne hd (new d hd)
  refused := h.refused_concat fun _ => ⟨cause, rfl⟩

theorem concat_duplicate (h : Summary calls log rows) {d : Delivery} (mem : d ∈ rows)
    (id : d.eventId = e.id) (final : d.state ≠ .failed) :
    Summary (calls ++ [(now, e)]) (log ++ [(e, .ok .duplicate)]) rows where
  events := h.events_concat
  ids := by
    have hmem := h.mem_ids mem id
    rw [h.ids, List.map_append, List.map_singleton,
      recordableIds_concat _ (isRecordable_of_mem hmem), if_pos hmem]
  times := h.times_concat
  first d hd := firstDelivery?_concat_of_some (h.first d hd)
  row d' hd' := by
    by_cases hid : d'.eventId = e.id
    · obtain ⟨a, happlied⟩ := (h.row d mem).exists_applied final
      have hrow := h.row d' hd'
      rw [id] at happlied
      rw [hid] at hrow ⊢
      rw [endings_concat_self]
      exact hrow.concat_duplicate ⟨a, happlied⟩
    · exact h.row_of_ne hd' hid
  refused := h.refused_concat_of_mem (h.mem_ids mem id)

theorem concat_first (h : Summary calls log rows) {id : Uuid} {state : DeliveryState}
    {errorMessage : Option String} (new : ∀ d ∈ rows, d.eventId ≠ e.id)
    (fits : e.isRecordable = true) (tells : Tells r state errorMessage) :
    Summary (calls ++ [(now, e)]) (log ++ [(e, r)])
      (rows ++ [⟨id, e.id, e.type, state, errorMessage, now, now⟩]) where
  events := h.events_concat
  ids := by
    have hmem : e.id ∉ recordableIds (calls.map (·.2)) := fun hmem => by
      obtain ⟨d, hd, hid⟩ := List.mem_map.1 (h.ids ▸ hmem)
      exact new d hd hid
    rw [List.map_append, h.ids, List.map_append, List.map_singleton, List.map_singleton,
      recordableIds_concat _ fits, if_neg hmem]
  times := by
    rw [List.map_append, List.map_append]
    exact h.times.append (.refl _)
  first d hd := by
    rcases List.mem_append.1 hd with hd | hd
    · exact firstDelivery?_concat_of_some (h.first d hd)
    · rw [List.mem_singleton.1 hd, firstDelivery?, List.find?_append,
        List.find?_eq_none.2 fun c hc => by simpa using h.ne_of_new new fits c hc]
      simp
  row d hd := by
    rcases List.mem_append.1 hd with hd | hd
    · exact h.row_of_ne hd (new d hd)
    · rw [List.mem_singleton.1 hd, endings_concat_self, h.endings_of_new new fits]
      exact .concat_of_tells (by simp) tells
  refused := h.refused_concat fun hlong => by
    rw [fits] at hlong
    cases hlong

theorem concat_again (h : Summary calls log rows) {d : Delivery} {state : DeliveryState}
    {errorMessage : Option String} (mem : d ∈ rows) (id : d.eventId = e.id)
    (claimable : Ledger.isClaimable now d = true) (tells : Tells r state errorMessage) :
    Summary (calls ++ [(now, e)]) (log ++ [(e, r)])
      (Ledger.change e.id (attempted now state errorMessage) rows) where
  events := h.events_concat
  ids := by
    have hmem := h.mem_ids mem id
    rw [Ledger.change, List.map_map, List.map_append, List.map_singleton,
      recordableIds_concat _ (isRecordable_of_mem hmem), if_pos hmem, ← h.ids]
    exact List.map_congr_left fun d _ =>
      Ledger.apply_change (g := (·.eventId)) (f := attempted now state errorMessage) (fun _ => rfl) _ d
  times := by
    have same : (Ledger.change e.id (attempted now state errorMessage) rows).map (·.createdAt) =
        rows.map (·.createdAt) := map_map_eq (fun d => by split <;> rfl) rows
    rw [same]
    exact h.times_concat
  first d hd := by
    obtain ⟨d₀, hd₀, rfl⟩ := List.mem_map.1 hd
    have := firstDelivery?_concat_of_some (c := (now, e)) (h.first d₀ hd₀)
    split <;> exact this
  row d' hd' := by
    obtain ⟨d₀, hd₀, rfl⟩ := List.mem_map.1 hd'
    have unapplied := (h.row d mem).unapplied_of_claimable claimable
    by_cases hid : d₀.eventId = e.id
    · rw [if_pos hid]
      show SumsUp (endings d₀.eventId _) _
      rw [id] at unapplied
      rw [hid, endings_concat_self]
      exact .concat_of_tells unapplied tells
    · rw [if_neg hid]
      exact h.row_of_ne hd₀ hid
  refused := h.refused_concat_of_mem (h.mem_ids mem id)

/-- One call more. -/
theorem concat {rows' : List Delivery} (h : Summary calls log rows)
    (step : RowStep now e rows r rows') :
    Summary (calls ++ [(now, e)]) (log ++ [(e, r)]) rows' := by
  cases step with
  | refused new long => exact h.concat_refused new long
  | duplicate mem id final => exact h.concat_duplicate mem id final
  | first new fits tells => exact h.concat_first new fits tells
  | again mem id claimable tells => exact h.concat_again mem id claimable tells

/-- If time passes between the calls, the rows were made one after another. -/
theorem increasing (h : Summary calls log rows) (times : (calls.map (·.1)).Pairwise (· < ·)) :
    rows.Pairwise fun d d' => d.createdAt < d'.createdAt :=
  List.pairwise_map.1 (times.sublist h.times)

end Summary

/-! ### Runs -/

section Run

variable {σ : Type} [PaymentProvider σ] {w : World σ} {log : List (Event × Ending)}
  {before calls : List (Int × Event)}

/-- Calls that handle events, each at its time. -/
def handles (calls : List (Int × Event)) : List (Operation σ) :=
  calls.map fun c => .handle c.1 c.2

theorem summary_afterAll (h : Summary before log w.store.deliveries)
    (hplain : ∀ c ∈ calls, c.2.IsPlain) :
    Summary (before ++ calls) (log ++ outcomes w (handles calls))
      (afterAll w (handles calls)).store.deliveries := by
  induction calls generalizing w before log with
  | nil => rwa [handles, List.map_nil, outcomes, List.append_nil, List.append_nil]
  | cons c calls ih =>
    obtain ⟨hc, hplain⟩ := List.forall_mem_cons.1 hplain
    have step := rowStep_of_handling hc (handling_on c.1 c.2 w.store)
    have := ih (w := (Operation.handle c.1 c.2).after w) (h.concat step) hplain
    rwa [List.append_assoc, List.append_assoc] at this

end Run

/-! ### Listing the ledger -/

/-- A row is listed before another one only if it was not made before it. -/
abbrev LedgerOrder := Arrangement fun d d' => Ledger.isNewer d d' = true

/-- A page that is long enough shows the rows that pass the filter. -/
theorem run_list {s : Store} (order : LedgerOrder) {stateName : Option String} {limit : Int}
    (hname : ∀ name, stateName = some name → isStorable name = true)
    (hlimit : s.deliveries.length ≤ limit) :
    (Ledger.list order stateName limit 0).run s =
      .ok (order.arrange (s.deliveries.filter fun d => stateName.all (· == d.state.name)), s) := by
  show Commits _ s _ s
  have hrows : (order.arrange (s.deliveries.filter fun d =>
      stateName.all (· == d.state.name))).length ≤ limit.toNat := by
    have := List.length_filter_le (fun d : Delivery => stateName.all (· == d.state.name))
      s.deliveries
    rw [Arrangement.length_arrange]
    omega
  rw [Ledger.list, commits_requireTexts_bind, commits_require_bind, commits_require_bind,
    commits_get_bind, commits_pure]
  refine ⟨by simpa using hname, by simp, by simpa using Int.le_trans (by omega) hlimit, ?_, rfl⟩
  rw [Int.toNat_zero, List.drop_zero, List.take_of_length_le hrows]

/-- Rows that were made one after another have one arrangement. -/
theorem arrange_eq_reverse (order : LedgerOrder) {rows : List Delivery}
    (h : rows.Pairwise fun d d' => d.createdAt < d'.createdAt) :
    order.arrange rows = rows.reverse := by
  have backwards : rows.reverse.Pairwise fun d d' => Ledger.isNewer d d' = true :=
    List.pairwise_reverse.2 (h.imp fun hlt => by simpa [Ledger.isNewer] using Int.le_of_lt hlt)
  have times : (rows.map (·.createdAt)).Nodup := List.pairwise_map.2 (h.imp Int.ne_of_lt)
  refine List.Perm.eq_of_pairwise (fun d d' hd hd' hnewer holder => ?_) (order.ordered rows) backwards
    ((order.perm rows).trans rows.reverse_perm.symm)
  refine List.inj_on_of_nodup_map times (order.mem_arrange.1 hd) (List.mem_reverse.1 hd') ?_
  simp only [Ledger.isNewer, decide_eq_true_eq] at hnewer holder
  omega

/-- The list has the rows, newest first. -/
structure NewestFirst (rows listed : List Delivery) : Prop where
  perm : listed.Perm rows
  newest : listed.Pairwise fun d d' => d'.createdAt ≤ d.createdAt

theorem newestFirst_arrange (order : LedgerOrder) (rows : List Delivery) :
    NewestFirst rows (order.arrange rows) where
  perm := order.perm rows
  newest := (order.ordered rows).imp fun h => by simpa [Ledger.isNewer] using h

/-- The ledger sums up the deliveries. From an empty ledger and whatever else the database holds,
calls for plain events leave

* one row for each id that was delivered and that the index of the ledger takes, in the order of the
  first deliveries; an event with another id fails at every delivery, on the database;
* in each row the time and the type of the first delivery of its event, and, if some call applied the
  event, a success and no text, or otherwise an error and the wording of the one that the last call
  ended with.

The rows are listed newest first, and a filter for errors lists those whose last attempt failed. If
time passes between the calls, the one first delivered last comes first, and so on. -/
theorem summarizes_deliveries {σ : Type} [PaymentProvider σ] {w : World σ}
    (hempty : w.store.deliveries = []) {calls : List (Int × Event)}
    (hplain : ∀ c ∈ calls, c.2.IsPlain) :
    let log := outcomes w (handles calls)
    let s := (afterAll w (handles calls)).store
    let failed := s.deliveries.filter fun d => lastAttemptFailed (endings d.eventId log)
    s.deliveries.map (·.eventId) = recordableIds (calls.map (·.2)) ∧
    (∀ d ∈ s.deliveries, firstDelivery? d.eventId calls = some (d.createdAt, d.eventType) ∧
      ((∃ a, .ok (.applied a) ∈ endings d.eventId log) →
        d.state = .success ∧ d.errorMessage = none) ∧
      ((∀ a, .ok (.applied a) ∉ endings d.eventId log) →
        ∃ err, (endings d.eventId log).getLast? = some (.error err) ∧
          d.state = .failed ∧ d.errorMessage = some err.message)) ∧
    (∀ x ∈ log, x.1.isRecordable = false → ∃ cause, x.2 = .error (.database cause)) ∧
    ∀ (order : LedgerOrder) (limit : Int), s.deliveries.length ≤ limit → ∃ all errors,
      (Ledger.list order none limit 0).run s = .ok (all, s) ∧ NewestFirst s.deliveries all ∧
      (Ledger.list order (some "error") limit 0).run s = .ok (errors, s) ∧
      NewestFirst failed errors ∧
      ((calls.map (·.1)).Pairwise (· < ·) →
        all = s.deliveries.reverse ∧ errors = failed.reverse) := by
  intro log s failed
  have summary : Summary calls log s.deliveries := by
    have := summary_afterAll (hempty.symm ▸ Summary.nil) hplain
    rwa [List.nil_append, List.nil_append] at this
  refine ⟨summary.ids, fun d hd => ⟨summary.first d hd, ?_, ?_⟩, summary.refused,
    fun order limit hlimit => ⟨order.arrange s.deliveries, order.arrange failed, ?_,
      newestFirst_arrange order _, ?_, newestFirst_arrange order _, fun times => ?_⟩⟩
  · rintro ⟨a, ha⟩
    cases summary.row d hd with
    | applied _ _ state errorMessage => exact ⟨state, errorMessage⟩
    | failed _ _ unapplied => exact absurd ha (unapplied a)
  · intro unapplied
    cases summary.row d hd with
    | applied a last => exact absurd (List.mem_filter.1 (List.mem_of_getLast? last)).1 (unapplied a)
    | failed err last _ state errorMessage => exact ⟨err, last, state, errorMessage⟩
  · rw [run_list order (by simp) hlimit]
    simp
  · have passes : s.deliveries.filter (fun d => (some "error").all (· == d.state.name)) = failed :=
      List.filter_congr fun d hd => (summary.row d hd).error_filter_eq
    rw [run_list order (by simp; decide) hlimit, passes]
  · have increasing := summary.increasing times
    exact ⟨arrange_eq_reverse order increasing, arrange_eq_reverse order (increasing.filter _)⟩

/-- An event that fails and is then, with another type, a completed checkout that is applied, and one
that fails: the row of the first keeps its type and time, and the other one is listed as an error. -/
theorem summarizes_deliveries_of_retry :
    let w : World Provider.Sandbox := ⟨held, .fresh⟩
    let calls := [(0, ⟨"evt_1", customerDeleted, 0, .null⟩), (1, completion),
      (2, ⟨"evt_2", customerDeleted, 0, .null⟩)]
    let s := (afterAll w (handles calls)).store
    (∃ d ∈ s.deliveries, d.eventId = "evt_1" ∧ d.createdAt = 0 ∧ d.eventType = customerDeleted ∧
        d.state = .success) ∧
      ∀ order, ∃ all errors, (Ledger.list order none 10 0).run s = .ok (all, s) ∧
        all.map (·.eventId) = ["evt_2", "evt_1"] ∧
        (Ledger.list order (some "error") 10 0).run s = .ok (errors, s) ∧
        errors = [⟨.row 7 2, "evt_2", customerDeleted, .failed,
          some "Webhook event not supported: customer.deleted event is missing 'id'", 2, 2⟩] := by
  intro w calls s
  have hplain : ∀ c ∈ calls, c.2.IsPlain := by
    have plain (id : String) (hid : isStorable id = true) :
        Event.IsPlain ⟨id, customerDeleted, 0, .null⟩ :=
      ⟨hid, (by decide : isStorable customerDeleted = true), fun name text h => by
        simp [Json.get?] at h⟩
    simp only [calls, List.forall_mem_cons]
    exact ⟨plain "evt_1" (by decide), isPlain_completion, plain "evt_2" (by decide), by simp⟩
  obtain ⟨hids, hrows, -, hlist⟩ := summarizes_deliveries (w := w) rfl hplain
  have hids : s.deliveries.map (·.eventId) = ["evt_1", "evt_2"] := hids.trans (by decide +kernel)
  have hlength : s.deliveries.length = 2 := by simpa using congrArg List.length hids
  refine ⟨?_, fun order => ?_⟩
  · obtain ⟨d, hd, hid⟩ := List.mem_map.1 (hids ▸ List.mem_cons_self .. : "evt_1" ∈ _)
    obtain ⟨hfirst, happlied, -⟩ := hrows d hd
    rw [hid] at hfirst happlied
    obtain ⟨htime, htype⟩ := Prod.mk.inj (Option.some.inj hfirst)
    refine ⟨d, hd, hid, htime.symm, htype.symm,
      (happlied ⟨.completeCheckout "cus_1" "sub_1", ?_⟩).1⟩
    decide +kernel
  · obtain ⟨all, errors, hall, -, herrors, -, backwards⟩ := hlist order 10 (by rw [hlength]; decide)
    obtain ⟨hreversed, hfailed⟩ := backwards (by decide)
    refine ⟨all, errors, hall, ?_, herrors, hfailed.trans (by decide +kernel)⟩
    rw [hreversed, List.map_reverse, hids]
    rfl

theorem no_row_of_not_isRecordable {σ : Type} [PaymentProvider σ] (p : σ) {e : Event}
    (h : e.isRecordable = false) (now : Int) :
    (afterAll ⟨.empty, p⟩ (handles [(now, e)])).store.deliveries = [] := by
  obtain ⟨_, hon⟩ := handle_of_not_isRecordable (s := .empty) (e := e) rfl h now
  show ((handle now e).on .empty).2.deliveries = []
  rw [hon]
  rfl

/-- An id can be too long for the index of the ledger. -/
theorem exists_not_isRecordable : ∃ e : Event, e.IsPlain ∧ e.isRecordable = false := by
  obtain ⟨id, hid, refused⟩ := Index.exists_refused Ledger.eventIndex
  obtain ⟨cause, hcause⟩ := refused [id] (List.mem_singleton_self id)
  have type : isStorable "ping" = true := by decide
  exact ⟨⟨id, "ping", 0, .null⟩, ⟨hid, type, by simp [Json.get?]⟩,
    by simp [Event.isRecordable, hcause]⟩

/-- An event with a long id leaves no row. -/
theorem not_summarizes_every_delivery :
    ¬ ∀ (w : World Provider.Sandbox) (calls : List (Int × Event)), w.store.deliveries = [] →
      (∀ c ∈ calls, c.2.IsPlain) →
      (afterAll w (handles calls)).store.deliveries.map (·.eventId) =
        (calls.map (·.2.id)).eraseDups := by
  intro h
  obtain ⟨e, he, hlong⟩ := exists_not_isRecordable
  have hrows := h ⟨.empty, .fresh⟩ [(0, e)] rfl (by simpa using he)
  rw [no_row_of_not_isRecordable _ hlong] at hrows
  have hmem : e.id ∈ ([((0 : Int), e)].map (·.2.id)).eraseDups := List.mem_eraseDups.2 (by simp)
  rw [← hrows] at hmem
  cases hmem

end OrgBilling.Webhook
