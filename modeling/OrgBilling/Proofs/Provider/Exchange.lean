import OrgBilling.Provider.Connection

/-!
# Replacing a price over a connection

An operation over a connection is a sequence of requests, each of which is sent when the answer to
the one before has been read. What is read depends on the outcome of the request alone: a value from
an answer of success that decodes (`Accepts`), an error from anything else (`Refuses`).

For the replacement of a price the first answer decides which requests there are to be: one for each
price on the page, in its order, and then one for the new price. They are sent one by one until one
of them fails (`Sends`), whatever the endpoint does and however long the page is
(`replacement_stops_at_first_failure`).
-/

namespace OrgBilling.Provider

open Connection

variable {α : Type} {d : Decoder α} {o : Outcome}

/-! ### What is read from an outcome -/

/-- A value is read from an outcome: an answer of success holds it. -/
def Accepts (d : Decoder α) (o : Outcome) (a : α) : Prop :=
  ∃ status body, o = .answered status body ∧ (200 ≤ status ∧ status < 300) ∧
    Decoder.runFirst? d body = some a

/-- An error is read from an outcome. -/
inductive Refuses (d : Decoder α) : Outcome → BillingError → Prop where
  | unreachable (reason : String) :
    Refuses d (.unreachable reason) (.provider (.unreachable reason))
  | undecodable {status : Nat} {body : String} (success : 200 ≤ status ∧ status < 300)
    (h : Decoder.runFirst? d body = none) :
    Refuses d (.answered status body) (.provider .undecodable)
  | reported {status : Nat} {body : String} {r : ErrorReply}
    (failure : ¬ (200 ≤ status ∧ status < 300))
    (h : Decoder.runFirst? ErrorReply.decode body = some r) :
    Refuses d (.answered status body) (.provider (.reported r.type status r.explanation))
  | unexplained {status : Nat} {body : String} (failure : ¬ (200 ≤ status ∧ status < 300))
    (h : Decoder.runFirst? ErrorReply.decode body = none) :
    Refuses d (.answered status body) (.provider .undecodable)

theorem accepts_or_refuses (d : Decoder α) (o : Outcome) :
    (∃ a, Accepts d o a) ∨ ∃ e, Refuses d o e := by
  cases o with
  | unreachable reason => exact .inr ⟨_, .unreachable reason⟩
  | answered status body =>
    by_cases success : 200 ≤ status ∧ status < 300
    · cases h : Decoder.runFirst? d body with
      | none => exact .inr ⟨_, .undecodable success h⟩
      | some a => exact .inl ⟨a, status, body, rfl, success, h⟩
    · cases h : Decoder.runFirst? ErrorReply.decode body with
      | none => exact .inr ⟨_, .unexplained success h⟩
      | some r => exact .inr ⟨_, .reported success h⟩

theorem Accepts.unique {a a' : α} (h : Accepts d o a) (h' : Accepts d o a') : a = a' := by
  obtain ⟨status, body, rfl, -, h⟩ := h
  obtain ⟨_, _, heq, -, h'⟩ := h'
  cases heq
  exact Option.some.inj (h.symm.trans h')

theorem Refuses.unique {e e' : BillingError} (h : Refuses d o e) (h' : Refuses d o e') : e = e' := by
  cases h <;> cases h' <;> simp_all

theorem Accepts.not_refuses {a : α} {e : BillingError} (h : Accepts d o a) : ¬ Refuses d o e := by
  obtain ⟨status, body, rfl, success, h⟩ := h
  intro h'
  cases h' <;> simp_all

/-! ### One request -/

namespace Endpoint

variable {e : Endpoint}

/-- What becomes of a later request: the first one has the number zero. -/
def outcome (e : Endpoint) (k : Nat) : Outcome :=
  e.pending.getD k e.afterwards

theorem nextOutcome_eq (e : Endpoint) : e.nextOutcome = e.outcome 0 := by
  rw [nextOutcome, outcome]
  cases e.pending <;> rfl

theorem outcome_accept (e : Endpoint) (r : Request) (k : Nat) :
    (e.accept r).outcome k = e.outcome (k + 1) := by
  rw [outcome, outcome, accept]
  cases e.pending <;> rfl

end Endpoint

namespace Connection

variable {c : Connection}

/-- A request, of which the path is the one that is sent. -/
def request (c : Connection) (method : Method) (path : String) (query form : Params) : Request where
  method := method
  path := path
  query := query
  form := form
  authorization := "Bearer " ++ c.secretKey
  version := Config.clientApiVersion

/-- The connection after requests. -/
def after (c : Connection) (sent : List Request) : Connection :=
  { c with endpoint := sent.foldl Endpoint.accept c.endpoint }

theorem after_cons (r : Request) (sent : List Request) :
    c.after (r :: sent) = (c.after [r]).after sent := rfl

theorem outcome_after_singleton (r : Request) :
    (c.after [r]).endpoint.outcome = fun k => c.endpoint.outcome (k + 1) :=
  funext (Endpoint.outcome_accept c.endpoint r)

/-- Requests that are answered reach the endpoint in the order in which they are sent. -/
theorem received_after {sent : List Request}
    (h : ∀ k < sent.length, ∃ status body, c.endpoint.outcome k = .answered status body) :
    (c.after sent).endpoint.received = c.endpoint.received ++ sent := by
  induction sent generalizing c with
  | nil => exact (List.append_nil _).symm
  | cons r sent ih =>
    obtain ⟨status, body, hfirst⟩ := h 0 (Nat.succ_pos _)
    have rest : ∀ k < sent.length,
        ∃ status body, (c.after [r]).endpoint.outcome k = .answered status body := fun k hk => by
      rw [outcome_after_singleton]
      exact h (k + 1) (Nat.succ_lt_succ hk)
    rw [after_cons, ih rest, show (c.after [r]).endpoint = c.endpoint.accept r from rfl,
      Endpoint.received_accept_of_answered ((Endpoint.nextOutcome_eq _).trans hfirst),
      List.append_assoc, List.singleton_append]

/-- Requests that are answered can be told apart by what has been received. -/
theorem after_singleton_inj {status : Nat} {body : String} {r r' : Request}
    (h : c.endpoint.outcome 0 = .answered status body) (heq : c.after [r] = c.after [r']) :
    r = r' := by
  have answered (r : Request) : ∀ k < [r].length, ∃ status body,
      c.endpoint.outcome k = .answered status body := fun k hk => by
    obtain rfl : k = 0 := Nat.lt_one_iff.1 hk
    exact ⟨status, body, h⟩
  have received := congrArg (fun c => c.endpoint.received) heq
  simp only [received_after (answered r), received_after (answered r')] at received
  exact List.singleton_inj.1 (List.append_cancel_left received)

/-- An operation sends one request, whatever comes of it, and reads the outcome. -/
def Performs (op : Call Connection α) (d : Decoder α) (r : Connection → Request) : Prop :=
  ∀ c, (∀ a, Accepts d (c.endpoint.outcome 0) a → op.on c = (.ok a, c.after [r c])) ∧
    ∀ e, Refuses d (c.endpoint.outcome 0) e → op.on c = (.error e, c.after [r c])

theorem performs_send (d : Decoder α) (method : Method) (path : String) (query form : Params) :
    Performs (send d method path query form) d fun c =>
      c.request method (Url.requestPath path) query form := by
  intro c
  rw [send, Call.on_bind, Call.on_get]
  dsimp only
  rw [Call.on_bind, Call.on_set, Endpoint.nextOutcome_eq]
  dsimp only
  constructor
  · rintro a ⟨status, body, houtcome, success, h⟩
    rw [houtcome]
    dsimp only
    rw [if_pos success, h]
    rfl
  · intro e h
    generalize c.endpoint.outcome 0 = o at h ⊢
    cases h with
    | unreachable reason => rfl
    | undecodable success h =>
      dsimp only
      rw [if_pos success, h]
      rfl
    | reported failure h =>
      dsimp only
      rw [if_neg failure, h]
      rfl
    | unexplained failure h =>
      dsimp only
      rw [if_neg failure, h]
      rfl

theorem Performs.sends {op : Call Connection α} {r : Connection → Request} (h : Performs op d r)
    (c : Connection) : (op.on c).2 = c.after [r c] := by
  rcases accepts_or_refuses d (c.endpoint.outcome 0) with ⟨a, ha⟩ | ⟨e, he⟩
  · rw [(h c).1 a ha]
  · rw [(h c).2 e he]

/-! ### The requests of a replacement -/

/-- The request for the prices that are to be replaced: the first ten in use of the product and
currency. -/
def search (t : PriceTerms) (c : Connection) : Request :=
  c.request .get "/v1/prices/search"
    [("query", "active:\"true\" product:" ++ SearchQuery.quoteValue t.product ++
        " currency:" ++ SearchQuery.quoteValue t.currency),
     ("limit", "10")] []

/-- The request that takes a price out of use. -/
def deactivation (p : Price) (c : Connection) : Request :=
  c.request .post (Url.requestPath ("/prices/" ++ p.id)) [] [("active", "false")]

/-- The request for the new price, with all of its terms. -/
def creation (t : PriceTerms) (c : Connection) : Request :=
  c.request .post "/v1/prices" []
    ([("unit_amount", Text.Decimal.ofInt t.unitAmount), ("currency", t.currency),
      ("recurring[interval]", t.recurring.name), ("product", t.product)] ++
        t.taxBehavior.toList.map fun behavior => ("tax_behavior", behavior))

theorem creation_eq (t : PriceTerms) :
    creation t = fun c => c.request .post "/v1/prices" [] (newPriceForm t) := by
  funext c
  cases h : t.taxBehavior <;> simp [creation, newPriceForm, optional, h]

theorem performs_searchPrices (t : PriceTerms) :
    Performs (PaymentProvider.searchPrices (priceQuery t.product t.currency) defaultPageLength)
      (Page.decode Price.decode) (search t) := by
  have path : Url.requestPath "/prices/search" = "/v1/prices/search" := by decide +kernel
  have h := performs_send (Page.decode Price.decode) .get "/prices/search"
    (("query", priceQuery t.product t.currency) :: limited defaultPageLength) []
  rwa [path] at h

theorem performs_updatePrice (p : Price) :
    Performs (PaymentProvider.updatePrice p.id false) Price.decode (deactivation p) :=
  performs_send _ _ _ _ _

theorem performs_createPrice (t : PriceTerms) :
    Performs (PaymentProvider.createPrice t) Price.decode (creation t) := by
  have path : Url.requestPath "/prices" = "/v1/prices" := by decide +kernel
  have h := performs_send Price.decode .post "/prices" [] (newPriceForm t)
  rwa [path, ← creation_eq] at h

/-! ### Stopping at the first failure -/

/-- Of the requests of a plan, each for a price, the first ones have been sent, and what came of it is
the result: all but the last were answered with a price, and either the last one failed, and that is
the failure, or it was the last one of the plan. The outcomes are numbered from the first request. -/
structure Sends (plan : List Request) (outcome : Nat → Outcome) (sent : List Request)
    (result : Except BillingError Price) : Prop where
  ne_nil : sent ≠ []
  first : sent <+: plan
  accepted : ∀ k, k + 1 < sent.length → ∃ p, Accepts Price.decode (outcome k) p
  ok_iff : ∀ p, result = .ok p ↔
    sent = plan ∧ Accepts Price.decode (outcome (sent.length - 1)) p
  error_iff : ∀ e, result = .error e ↔ Refuses Price.decode (outcome (sent.length - 1)) e

namespace Sends

variable {r : Request} {plan sent : List Request} {outcome : Nat → Outcome}
  {result : Except BillingError Price} {p : Price} {e : BillingError}

theorem stop (h : Refuses Price.decode (outcome 0) e) : Sends (r :: plan) outcome [r] (.error e) where
  ne_nil := List.cons_ne_nil r []
  first := ⟨plan, rfl⟩
  accepted k hk := absurd hk (by simp)
  ok_iff p := iff_of_false nofun fun hp => hp.2.not_refuses h
  error_iff e' := by
    refine ⟨?_, fun h' => congrArg _ (h.unique h')⟩
    rintro ⟨⟩
    exact h

theorem last (h : Accepts Price.decode (outcome 0) p) : Sends [r] outcome [r] (.ok p) where
  ne_nil := List.cons_ne_nil r []
  first := List.prefix_rfl
  accepted k hk := absurd hk (by simp)
  ok_iff p' := by
    refine ⟨?_, fun h' => congrArg _ (h.unique h'.2)⟩
    rintro ⟨⟩
    exact ⟨rfl, h⟩
  error_iff e := iff_of_false nofun h.not_refuses

theorem next (h : Accepts Price.decode (outcome 0) p)
    (hrest : Sends plan (fun k => outcome (k + 1)) sent result) :
    Sends (r :: plan) outcome (r :: sent) result where
  ne_nil := List.cons_ne_nil r sent
  first := List.prefix_cons_inj r |>.2 hrest.first
  accepted
    | 0, _ => ⟨p, h⟩
    | k + 1, hk => hrest.accepted k (Nat.lt_of_succ_lt_succ hk)
  ok_iff p' := by
    have length : sent.length - 1 + 1 = sent.length :=
      Nat.sub_add_cancel (List.length_pos_iff.2 hrest.ne_nil)
    rw [hrest.ok_iff, length, List.length_cons, Nat.add_sub_cancel, List.cons_inj_right]
  error_iff e := by
    have length : sent.length - 1 + 1 = sent.length :=
      Nat.sub_add_cancel (List.length_pos_iff.2 hrest.ne_nil)
    rw [hrest.error_iff, length, List.length_cons, Nat.add_sub_cancel]

/-- A request that comes last in the plan, and only there, is sent only after all others have been
answered with a price. -/
theorem accepted_of_mem {rs : List Request} (h : Sends (rs ++ [r]) outcome sent result)
    (hr : r ∉ rs) (hsent : r ∈ sent) :
    ∀ k < rs.length, ∃ p, Accepts Price.decode (outcome k) p := by
  intro k hk
  refine h.accepted k ?_
  rcases List.prefix_concat_iff.1 h.first with rfl | hsub
  · simpa using hk
  · exact absurd (hsub.subset hsent) hr

end Sends

/-- Once the page has been read, the remaining requests are sent until one fails. -/
theorem exists_sends (t : PriceTerms) (ps : List Price) (c : Connection) :
    ∃ sent result,
      (deactivate ps >>= fun _ => PaymentProvider.createPrice t).on c = (result, c.after sent) ∧
        Sends (ps.map (deactivation · c) ++ [creation t c]) c.endpoint.outcome sent result := by
  induction ps generalizing c with
  | nil =>
    refine (accepts_or_refuses Price.decode (c.endpoint.outcome 0)).elim ?_ ?_
    · rintro ⟨p, hp⟩
      exact ⟨_, _, (performs_createPrice t c).1 p hp, .last hp⟩
    · rintro ⟨e, he⟩
      exact ⟨_, _, (performs_createPrice t c).2 e he, .stop he⟩
  | cons p ps ih =>
    have step : (deactivate (p :: ps) >>= fun _ => PaymentProvider.createPrice t) =
        (PaymentProvider.updatePrice p.id false >>= fun _ =>
          deactivate ps >>= fun _ => PaymentProvider.createPrice t : Call Connection Price) := by
      rw [deactivate, bind_assoc]
    rw [step, Call.on_bind]
    refine (accepts_or_refuses Price.decode (c.endpoint.outcome 0)).elim ?_ ?_
    · rintro ⟨q, hq⟩
      obtain ⟨sent, result, hrun, hsends⟩ := ih (c.after [deactivation p c])
      rw [outcome_after_singleton] at hsends
      rw [(performs_updatePrice p c).1 q hq]
      exact ⟨deactivation p c :: sent, result, hrun, .next hq hsends⟩
    · rintro ⟨e, he⟩
      rw [(performs_updatePrice p c).2 e he]
      exact ⟨_, _, rfl, .stop he⟩

/-- A replacement of a price sends one request after the other and stops at the first one that fails.
The search comes first. If it fails, its error is the result. If it is answered with a page, the
prices on the page are taken out of use in their order and then the new price is made, as far as that
succeeds: the result is the new price if all of these requests were sent and each was answered with a
price, and else the error of the last one. So the new price is requested only if all those on the page
have been taken out of use. What is sent and answered is received in this order. -/
theorem replacement_stops_at_first_failure (t : PriceTerms) (c : Connection) :
    (∀ e, Refuses (Page.decode Price.decode) (c.endpoint.outcome 0) e →
      (createOrUpdatePrice t).on c = (.error e, c.after [search t c])) ∧
    (∀ page, Accepts (Page.decode Price.decode) (c.endpoint.outcome 0) page →
      ∃ sent result, (createOrUpdatePrice t).on c = (result, c.after (search t c :: sent)) ∧
        Sends (page.data.map (deactivation · c) ++ [creation t c])
          (fun k => c.endpoint.outcome (k + 1)) sent result ∧
        (creation t c ∈ sent → ∀ k < page.data.length,
          ∃ p, Accepts Price.decode (c.endpoint.outcome (k + 1)) p)) ∧
    ((∃ page, Accepts (Page.decode Price.decode) (c.endpoint.outcome 0) page) ∨
      ∃ e, Refuses (Page.decode Price.decode) (c.endpoint.outcome 0) e) ∧
    ∀ sent, (∀ k < List.length sent, ∃ status body, c.endpoint.outcome k = .answered status body) →
      (c.after sent).endpoint.received = c.endpoint.received ++ sent := by
  refine ⟨fun e he => ?_, fun page hpage => ?_, accepts_or_refuses _ _, fun sent => received_after⟩
  · rw [createOrUpdatePrice, Call.on_bind, (performs_searchPrices t c).2 e he]
  · obtain ⟨sent, result, hrun, hsends⟩ := exists_sends t page.data (c.after [search t c])
    rw [outcome_after_singleton] at hsends
    refine ⟨sent, result, ?_, hsends, fun hmem k hk => ?_⟩
    · rw [createOrUpdatePrice, Call.on_bind, (performs_searchPrices t c).1 page hpage]
      exact hrun
    · -- The form of a new price is not the one that takes a price out of use.
      have other : creation t c ∉ page.data.map (deactivation · c) := by
        intro h
        obtain ⟨p, -, heq⟩ := List.mem_map.1 h
        have form := congrArg Request.form heq
        simp [deactivation, creation, request] at form
      exact hsends.accepted_of_mem other hmem k (by simpa using hk)

/-- A connection over which two prices are shown, and then the second one is not found. -/
def withLostPrice : Connection where
  secretKey := "sk_test_1"
  endpoint := {
    pending := [
      .answered 200 "\x7b\"data\":[\x7b\"id\":\"price_1\"\x7d,\x7b\"id\":\"price_2\"\x7d]\x7d",
      .answered 200 "\x7b\"id\":\"price_1\"\x7d",
      .answered 404 ""]
    afterwards := .answered 200 "\x7b\"id\":\"price_3\"\x7d"
    received := [] }

theorem accepts_search_withLostPrice :
    ∃ page, Accepts (Page.decode Price.decode) (withLostPrice.endpoint.outcome 0) page ∧
      page.data.map (·.id) = ["price_1", "price_2"] := by
  have ids : (Decoder.runFirst? (Page.decode Price.decode)
      "\x7b\"data\":[\x7b\"id\":\"price_1\"\x7d,\x7b\"id\":\"price_2\"\x7d]\x7d").map
        (fun page => page.data.map (·.id)) = some ["price_1", "price_2"] := by
    decide +kernel
  obtain ⟨page, h, hids⟩ := Option.map_eq_some_iff.1 ids
  exact ⟨page, ⟨200, _, rfl, by decide, h⟩, hids⟩

/-- When the second price cannot be taken out of use, the new one is not requested. -/
theorem replacement_stops_at_first_failure_of_withLostPrice :
    let t : PriceTerms := ⟨500, "usd", .month, "prod_1", none⟩
    ∃ (page : Page Price) (sent : List Request) (result : Except BillingError Price),
      page.data.map (·.id) = ["price_1", "price_2"] ∧
      (createOrUpdatePrice t).on withLostPrice =
        (result, withLostPrice.after (search t withLostPrice :: sent)) ∧
      sent <+: page.data.map (deactivation · withLostPrice) := by
  intro t
  obtain ⟨page, hpage, ids⟩ := accepts_search_withLostPrice
  have length : page.data.length = 2 := by simpa using congrArg List.length ids
  have lost (p : Price) : ¬ Accepts Price.decode (withLostPrice.endpoint.outcome 2) p := by
    rintro ⟨_, _, ⟨⟩, success, -⟩
    exact absurd success (by decide)
  obtain ⟨sent, result, hrun, hsends, created⟩ :=
    (replacement_stops_at_first_failure t withLostPrice).2.1 page hpage
  refine ⟨page, sent, result, ids, hrun, ?_⟩
  rcases List.prefix_concat_iff.1 hsends.first with rfl | first
  · obtain ⟨p, hp⟩ := created (by simp) 1 (by simp [length])
    exact absurd hp (lost p)
  · exact first

end Connection

end OrgBilling.Provider
