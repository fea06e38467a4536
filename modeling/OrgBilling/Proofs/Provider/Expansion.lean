import OrgBilling.Proofs.Json.Rewriting
import OrgBilling.Provider.Basic

/-!
# References in a checkout session

Where a session refers to a customer, a subscription or a price, the provider writes an id or the
whole object that has this id. A decoder of references reads the same from both (`Refers`,
`reference_eq_some_iff`). So, in whatever places of a session ids are replaced by objects, what is
read from the session does not change (`references_alike`), be it the price of one line among many.

The object may have any other members, but all of it has to be readable: a number too large for a
double is refused even where nobody asks for it. An array is never a reference, though other records
may be written as arrays (`not_references_alike`).
-/

namespace OrgBilling.Decoder

variable {room : Nat} {names : List String} {name : String}

/-! ### References -/

/-- The members of an object with an id: one of them is the id, and they are readable. -/
structure Identifies (room : Nat) (id : String) (members : List (Option String × Source)) : Prop where
  unique : ∃ before after, members = before ++ (some "id", .string (some id)) :: after ∧
    ∀ m ∈ before ++ after, m.1 ≠ some "id"
  readable : (Source.toJson? room (.object members)).isSome

/-- What a reference refers to. -/
inductive Refers (room : Nat) : Source → Option String → Prop where
  | null : Refers room .null none
  | bare (id : String) : Refers room (.string (some id)) (some id)
  | expanded {id : String} {members : List (Option String × Source)}
    (h : Identifies room id members) : Refers room (.object members) (some id)

theorem filter_id_eq_singleton_iff {id : String} {name : Option String}
    {members : List (Option String × Source)} :
    members.filter (fun m => m.1 == some "id") = [(name, .string (some id))] ↔
      name = some "id" ∧
        ∃ before after, members = before ++ (some "id", .string (some id)) :: after ∧
          ∀ m ∈ before ++ after, m.1 ≠ some "id" := by
  simp only [List.filter_eq_cons_iff, List.filter_eq_nil_iff, beq_iff_eq, List.forall_mem_append]
  constructor
  · rintro ⟨before, after, rfl, hbefore, rfl, hafter⟩
    exact ⟨rfl, before, after, rfl, hbefore, hafter⟩
  · rintro ⟨rfl, before, after, rfl, hbefore, hafter⟩
    exact ⟨before, after, rfl, hbefore, rfl, hafter⟩

theorem reference_eq_some_iff {v : Source} {r : Option String} :
    reference room v = some r ↔ Refers room v r := by
  constructor
  · intro h
    unfold reference at h
    split at h
    · cases h
      exact .null
    · obtain ⟨id, rfl, rfl⟩ := Option.map_eq_some_iff.1 h
      exact .bare id
    · obtain ⟨j, hj, h⟩ := Option.bind_eq_some_iff.1 h
      split at h
      · next heq =>
        cases h
        exact .expanded ⟨(filter_id_eq_singleton_iff.1 heq).2, by rw [hj]; rfl⟩
      · cases h
    · cases h
  · rintro (_ | id | ⟨unique, readable⟩)
    · rfl
    · rfl
    · obtain ⟨j, hj⟩ := Option.isSome_iff_exists.1 readable
      rw [reference, hj, Option.bind_eq_bind, Option.bind_some,
        filter_id_eq_singleton_iff.2 ⟨rfl, unique⟩]

/-- A value that is no reference. -/
inductive Unreferable : Source → Prop where
  | bool (b : Bool) : Unreferable (.bool b)
  | number (n : Numeral) : Unreferable (.number n)
  | array (items : List Source) : Unreferable (.array items)
  | object {members : List (Option String × Source)}
    (h : ∀ id, (some "id", .string (some id)) ∉ members) : Unreferable (.object members)

theorem Unreferable.not_refers {v : Source} (h : Unreferable v) (r : Option String) :
    ¬ Refers room v r := by
  rintro (_ | id | @⟨id, _, ⟨⟨before, after, rfl, -⟩, -⟩⟩) <;> cases h
  · next h => exact h id (by simp)

/-! ### Fields that are references -/

/-- A record holds no value under a name, or `null` only. -/
def OnlyNull (names : List String) (name : String) (w : Source) : Prop :=
  ∀ v, HasField names name v w → v = .null

/-- The field of a record refers to what is written there, or to nothing if it is missing. -/
structure FieldRefers (names : List String) (name : String) (room : Nat) (w : Source)
    (r : Option String) : Prop where
  written : ∀ v, HasField names name v w → Refers room v r
  missing : (∀ v, ¬ HasField names name v w) → r = none

theorem FieldRefers.eq_none_iff {w : Source} {r : Option String}
    (h : FieldRefers names name room w r) : r = none ↔ OnlyNull names name w := by
  constructor
  · rintro rfl v hv
    cases h.written v hv
    rfl
  · intro only
    by_cases hv : ∃ v, HasField names name v w
    · obtain ⟨v, hv⟩ := hv
      have refers := h.written v hv
      rw [only v hv] at refers
      cases refers
      rfl
    · exact h.missing (not_exists.1 hv)

theorem fieldRefers_of_withDefault {w : Source} {m : Members} {r : Option String}
    (hm : members? names room w = some m) (nodup : names.Nodup) (hname : name ∈ names)
    (h : m.withDefault name none reference = some r) : FieldRefers names name m.room w r := by
  have field (v : Source) := lookup_eq_some_iff_hasField (v := v) hm nodup hname
  rw [Members.withDefault] at h
  split at h
  · next v hv =>
    have refers := reference_eq_some_iff.1 h
    refine ⟨fun v' hv' => ?_, fun missing => absurd ((field v).1 hv) (missing v)⟩
    obtain rfl := Option.some.inj (hv.symm.trans ((field v').2 hv'))
    exact refers
  · next hnone =>
    cases h
    refine ⟨fun v hv => ?_, fun _ => rfl⟩
    cases hnone.symm.trans ((field v).2 hv)

/-! ### Rewriting references -/

/-- A bare id may be replaced by an object with this id. -/
inductive Expansion (room : Nat) : Source → Source → Prop where
  | same (v : Source) : Expansion room v v
  | object {id : String} {members : List (Option String × Source)} (h : Identifies room id members) :
    Expansion room (.string (some id)) (.object members)

/-- A reference may be replaced by `null`. -/
inductive Clearing : Source → Source → Prop where
  | same (v : Source) : Clearing v v
  | null (v : Source) : Clearing v .null

theorem follows_expansion : Follows reference room (Expansion room) Eq := by
  rintro v v' r (_ | h) hr
  · exact ⟨r, hr, rfl⟩
  · cases hr
    exact ⟨_, reference_eq_some_iff.2 (.expanded h), rfl⟩

theorem follows_clearing :
    Follows reference room Clearing fun r r' => r' = r ∨ r' = none := by
  rintro v v' r (_ | _) hr
  · exact ⟨r, hr, .inl rfl⟩
  · exact ⟨none, rfl, .inr rfl⟩

end OrgBilling.Decoder

namespace OrgBilling.Provider

open Decoder

variable {room : Nat} {E : Nat → Source → Source → Prop} {Q : Option String → Option String → Prop}

/-! ### Lines -/

namespace LineItem

/-- The names of the fields of a line. -/
def fields : List String := ["id", "price", "quantity"]

/-- What a field of a line may be rewritten to. -/
def FieldRewriting (E : Nat → Source → Source → Prop) (room : Nat) (name : String) :
    Source → Source → Prop :=
  if name = "price" then E room else Eq

/-- The price of a line may be rewritten. -/
def Rewriting (E : Nat → Source → Source → Prop) (room : Nat) : Source → Source → Prop :=
  Rewritten fields (FieldRewriting E (room - 1))

/-- The lines are the same up to their prices. -/
structure Like (Q : Option String → Option String → Prop) (l l' : LineItem) : Prop where
  id : l.id = l'.id
  price : Q l.price l'.price
  quantity : l.quantity = l'.quantity

theorem Like.eq {l l' : LineItem} (h : Like Eq l l') : l = l' := by
  obtain ⟨hid, hprice, hquantity⟩ := h
  cases l
  cases l'
  simp_all

theorem follows_decode (hE : ∀ room, Follows reference room (E room) Q) (hQ : Q none none) :
    Follows decode room (Rewriting E room) (Like Q) := by
  refine Follows.record fun m m' l hroom hm hl => ?_
  have same {α : Type} (d : Decoder α) {name : String} (hname : name ≠ "price") :
      Follows d m.room (FieldRewriting E (room - 1) name) Eq := by
    rw [FieldRewriting, if_neg hname]
    exact follows_eq d m.room
  simp only [Option.bind_eq_bind, Option.bind_eq_some_iff] at hl
  obtain ⟨id, hid, price, hprice, quantity, hquantity, hl⟩ := hl
  cases hl
  obtain ⟨_, hid', rfl⟩ := hm.required (same _ (by decide)) hid
  obtain ⟨price', hprice', hQ⟩ := hm.withDefault (hroom ▸ hE _) hQ hprice
  obtain ⟨_, hquantity', rfl⟩ := hm.withDefault (same _ (by decide)) rfl hquantity
  exact ⟨⟨id, price', quantity⟩, by rw [hid', hprice', hquantity']; rfl, rfl, hQ, rfl⟩

/-- The price of a line is what is written for it. -/
theorem fieldRefers_price {w : Source} {l : LineItem} (h : decode room w = some l) :
    FieldRefers fields "price" (room - 1) w l.price := by
  obtain ⟨m, hm, hl⟩ := Option.bind_eq_some_iff.1 h
  simp only [Option.bind_eq_bind, Option.bind_eq_some_iff] at hl
  obtain ⟨id, -, price, hprice, quantity, -, hl⟩ := hl
  cases hl
  exact room_members? hm ▸ fieldRefers_of_withDefault hm (by decide) (by decide) hprice

end LineItem

/-! ### Pages of lines -/

namespace Page

/-- The names of the fields of a page. -/
def fields : List String := ["data", "has_more"]

/-- What a field of a page may be rewritten to. -/
def FieldRewriting (E : Nat → Source → Source → Prop) (room : Nat) (name : String) :
    Source → Source → Prop :=
  if name = "data" then RewrittenItems (LineItem.Rewriting E (room - 1)) else Eq

/-- The lines on a page may be rewritten. -/
def Rewriting (E : Nat → Source → Source → Prop) (room : Nat) : Source → Source → Prop :=
  Rewritten fields (FieldRewriting E (room - 1))

/-- The pages are the same up to the prices of lines. -/
structure Like (Q : Option String → Option String → Prop) (p p' : Page LineItem) : Prop where
  data : List.Forall₂ (LineItem.Like Q) p.data p'.data
  hasMore : p.hasMore = p'.hasMore

theorem Like.eq {p p' : Page LineItem} (h : Like Eq p p') : p = p' := by
  obtain ⟨hdata, hhasMore⟩ := h
  have data : p.data = p'.data := by
    rw [← List.forall₂_eq_eq_eq]
    exact hdata.imp fun _ _ hl => hl.eq
  cases p
  cases p'
  simp_all

theorem follows_decode (hE : ∀ room, Follows reference room (E room) Q) (hQ : Q none none) :
    Follows (decode LineItem.decode) room (Rewriting E room) (Like Q) := by
  refine Follows.record fun m m' p hroom hm hp => ?_
  have same {α : Type} (d : Decoder α) {name : String} (hname : name ≠ "data") :
      Follows d m.room (FieldRewriting E (room - 1) name) Eq := by
    rw [FieldRewriting, if_neg hname]
    exact follows_eq d m.room
  have lines : Follows (Decoder.list LineItem.decode) m.room (FieldRewriting E (room - 1) "data")
      (List.Forall₂ (LineItem.Like Q)) := by
    rw [hroom]
    exact Follows.list (LineItem.follows_decode hE hQ)
  simp only [Option.bind_eq_bind, Option.bind_eq_some_iff] at hp
  obtain ⟨data, hdata, hasMore, hhasMore, hp⟩ := hp
  cases hp
  obtain ⟨data', hdata', hlike⟩ := hm.required lines hdata
  obtain ⟨_, hhasMore', rfl⟩ := hm.withDefault (same _ (by decide)) rfl hhasMore
  exact ⟨⟨data', hasMore⟩, by rw [hdata', hhasMore']; rfl, hlike, rfl⟩

/-- The lines of a page are what is written for them. -/
theorem decode_data {w : Source} {p : Page LineItem} {items : List Source}
    (h : decode LineItem.decode room w = some p) (hitems : HasField fields "data" (.array items) w) :
    List.Forall₂ (fun line l => LineItem.decode (room - 2) line = some l) items p.data := by
  obtain ⟨m, hm, hp⟩ := Option.bind_eq_some_iff.1 h
  simp only [Option.bind_eq_bind, Option.bind_eq_some_iff] at hp
  obtain ⟨data, hdata, hasMore, -, hp⟩ := hp
  cases hp
  obtain ⟨v, hv, hdata⟩ := Option.bind_eq_some_iff.1 hdata
  rw [(lookup_eq_some_iff_hasField hm (by decide) (by decide)).2 hitems] at hv
  cases hv
  rw [room_members? hm] at hdata
  exact (list_eq_some_iff.1 hdata).2

end Page

/-! ### Sessions -/

namespace CheckoutSession

/-- The names of the fields of a session. -/
def fields : List String :=
  ["id", "url", "customer", "subscription", "status", "mode", "line_items"]

/-- What a field of a session may be rewritten to. -/
def FieldRewriting (E : Nat → Source → Source → Prop) (room : Nat) (name : String) :
    Source → Source → Prop :=
  if name = "customer" ∨ name = "subscription" then E room
  else if name = "line_items" then RewrittenOption (Page.Rewriting E room)
  else Eq

/-- The references of a session may be rewritten: customer, subscription and the prices of lines. -/
def Rewriting (E : Nat → Source → Source → Prop) (room : Nat) : Source → Source → Prop :=
  Rewritten fields (FieldRewriting E (room - 1))

/-- The sessions are the same up to their references. -/
structure Like (Q : Option String → Option String → Prop) (s s' : CheckoutSession) : Prop where
  id : s.id = s'.id
  url : s.url = s'.url
  customer : Q s.customer s'.customer
  subscription : Q s.subscription s'.subscription
  status : s.status = s'.status
  mode : s.mode = s'.mode
  lineItems : Option.Rel (Page.Like Q) s.lineItems s'.lineItems

theorem Like.eq {s s' : CheckoutSession} (h : Like Eq s s') : s = s' := by
  obtain ⟨hid, hurl, hcustomer, hsubscription, hstatus, hmode, hlines⟩ := h
  have lineItems : s.lineItems = s'.lineItems := by
    generalize s.lineItems = o at hlines
    generalize s'.lineItems = o' at hlines
    cases hlines with
    | none => rfl
    | some hp => rw [hp.eq]
  cases s
  cases s'
  simp_all

theorem follows_decode (hE : ∀ room, Follows reference room (E room) Q) (hQ : Q none none) :
    Follows decode room (Rewriting E room) (Like Q) := by
  refine Follows.record fun m m' s hroom hm hs => ?_
  have same {α : Type} (d : Decoder α) {name : String}
      (hname : ¬ (name = "customer" ∨ name = "subscription") ∧ name ≠ "line_items") :
      Follows d m.room (FieldRewriting E (room - 1) name) Eq := by
    rw [FieldRewriting, if_neg hname.1, if_neg hname.2]
    exact follows_eq d m.room
  have referred {name : String} (hname : name = "customer" ∨ name = "subscription") :
      Follows reference m.room (FieldRewriting E (room - 1) name) Q := by
    rw [FieldRewriting, if_pos hname, hroom]
    exact hE _
  have lines : Follows (Decoder.option (Page.decode LineItem.decode)) m.room
      (FieldRewriting E (room - 1) "line_items") (Option.Rel (Page.Like Q)) := by
    rw [hroom]
    exact Follows.option (Page.follows_decode hE hQ) Rewritten.ne_null
  simp only [Option.bind_eq_bind, Option.bind_eq_some_iff] at hs
  obtain ⟨id, hid, url, hurl, customer, hcustomer, subscription, hsubscription, status, hstatus, mode,
    hmode, lineItems, hlineItems, hs⟩ := hs
  cases hs
  obtain ⟨_, hid', rfl⟩ := hm.required (same _ (by decide)) hid
  obtain ⟨_, hurl', rfl⟩ := hm.withDefault (same _ (by decide)) rfl hurl
  obtain ⟨customer', hcustomer', hcustomerQ⟩ := hm.withDefault (referred (.inl rfl)) hQ hcustomer
  obtain ⟨subscription', hsubscription', hsubscriptionQ⟩ :=
    hm.withDefault (referred (.inr rfl)) hQ hsubscription
  obtain ⟨_, hstatus', rfl⟩ := hm.withDefault (same _ (by decide)) rfl hstatus
  obtain ⟨_, hmode', rfl⟩ := hm.withDefault (same _ (by decide)) rfl hmode
  obtain ⟨lineItems', hlineItems', hlines⟩ := hm.withDefault lines .none hlineItems
  refine ⟨⟨id, url, customer', subscription', status, mode, lineItems'⟩, ?_, rfl, rfl, hcustomerQ,
    hsubscriptionQ, rfl, rfl, hlines⟩
  rw [hid', hurl', hcustomer', hsubscription', hstatus', hmode', hlineItems']
  rfl

/-- The references of a session are what is written for them. -/
theorem fieldRefers {w : Source} {s : CheckoutSession} (h : decode room w = some s) :
    FieldRefers fields "customer" (room - 1) w s.customer ∧
    FieldRefers fields "subscription" (room - 1) w s.subscription ∧
    ∀ page items, HasField fields "line_items" page w →
      HasField Page.fields "data" (.array items) page →
      ∃ p, s.lineItems = some p ∧ List.Forall₂
        (fun line l => FieldRefers LineItem.fields "price" (room - 4) line l.price) items p.data := by
  obtain ⟨m, hm, hs⟩ := Option.bind_eq_some_iff.1 h
  simp only [Option.bind_eq_bind, Option.bind_eq_some_iff] at hs
  obtain ⟨id, -, url, -, customer, hcustomer, subscription, hsubscription, status, -, mode, -,
    lineItems, hlineItems, hs⟩ := hs
  cases hs
  have refers {name : String} {r : Option String} (hname : name ∈ fields)
      (hr : m.withDefault name none reference = some r) :
      FieldRefers fields name (room - 1) w r :=
    room_members? hm ▸ fieldRefers_of_withDefault hm (by decide) hname hr
  refine ⟨refers (by decide) hcustomer, refers (by decide) hsubscription, ?_⟩
  intro page items hpage hitems
  have ne : page ≠ .null := by
    rintro rfl
    cases hitems
  rw [Members.withDefault,
    (lookup_eq_some_iff_hasField hm (by decide) (by decide)).2 hpage] at hlineItems
  dsimp only at hlineItems
  rw [option_of_ne_null ne, room_members? hm] at hlineItems
  obtain ⟨p, hp, rfl⟩ := Option.map_eq_some_iff.1 hlineItems
  exact ⟨p, rfl, (Page.decode_data hp hitems).imp fun _ _ hl => LineItem.fieldRefers_price hl⟩

/-- A value stands where a session refers to something. -/
inductive HoldsReference (v : Source) : Source → Prop where
  | customer {w : Source} (h : HasField fields "customer" v w) : HoldsReference v w
  | subscription {w : Source} (h : HasField fields "subscription" v w) : HoldsReference v w
  | price {w page line : Source} {items : List Source} (hpage : HasField fields "line_items" page w)
    (hdata : HasField Page.fields "data" (.array items) page) (hline : line ∈ items)
    (h : HasField LineItem.fields "price" v line) : HoldsReference v w

/-- All references of a session that is accepted refer to something or are `null`. -/
theorem refers_of_holdsReference {v w : Source} {s : CheckoutSession} (h : decode room w = some s)
    (hv : HoldsReference v w) : ∃ room r, Refers room v r := by
  obtain ⟨customer, subscription, lines⟩ := fieldRefers h
  cases hv with
  | customer hfield => exact ⟨_, _, customer.written v hfield⟩
  | subscription hfield => exact ⟨_, _, subscription.written v hfield⟩
  | price hpage hdata hline hfield =>
    obtain ⟨p, -, hitems⟩ := lines _ _ hpage hdata
    obtain ⟨l, -, hl⟩ := exists_of_mem_of_forall₂ hitems hline
    exact ⟨_, _, hl.written v hfield⟩

/-- A session is read in the same way from ids and from objects with these ids. Replace any of its
references, where they are bare ids: the same session is read. A reference is nothing if `null` is
written for it or nothing at all, and it may always be written as `null`. A session with a reference
that is a truth value, a number, an array or an object without an id is refused. -/
theorem references_alike (room : Nat) (w : Source) :
    (∀ s w', decode room w = some s → Rewriting Expansion room w w' → decode room w' = some s) ∧
    (∀ s, decode room w = some s →
      (s.customer = none ↔ OnlyNull fields "customer" w) ∧
      (s.subscription = none ↔ OnlyNull fields "subscription" w) ∧
      ∀ page items, HasField fields "line_items" page w →
        HasField Page.fields "data" (.array items) page →
        ∃ p, s.lineItems = some p ∧ List.Forall₂
          (fun line l => l.price = none ↔ OnlyNull LineItem.fields "price" line) items p.data) ∧
    (∀ s w', decode room w = some s → Rewriting (fun _ => Clearing) room w w' →
      ∃ s', decode room w' = some s' ∧ Like (fun r r' => r' = r ∨ r' = none) s s') ∧
    ∀ v, HoldsReference v w → Unreferable v → decode room w = none := by
  refine ⟨fun s w' hs hw => ?_, fun s hs => ?_, fun s w' hs hw => ?_, fun v hv hun => ?_⟩
  · obtain ⟨s', hs', hlike⟩ := follows_decode (fun _ => follows_expansion) rfl hw hs
    rw [hs', hlike.eq]
  · obtain ⟨customer, subscription, lines⟩ := fieldRefers hs
    refine ⟨customer.eq_none_iff, subscription.eq_none_iff, fun page items hpage hitems => ?_⟩
    obtain ⟨p, hp, hlines⟩ := lines page items hpage hitems
    exact ⟨p, hp, hlines.imp fun _ _ price => price.eq_none_iff⟩
  · exact follows_decode (fun _ => follows_clearing) (.inl rfl) hw hs
  · by_contra hsome
    obtain ⟨s, hs⟩ := Option.ne_none_iff_exists'.1 hsome
    obtain ⟨room', r, refers⟩ := refers_of_holdsReference hs hv
    exact hun.not_refers r refers

/-- A page of two lines, the second one without a price. -/
def twoLines (price : Source) : Source :=
  .object [(some "data", .array
    [.object [(some "id", .string (some "li_1")), (some "price", price)],
      .object [(some "id", .string (some "li_2"))]])]

theorem rewriting_twoLines {price price' : Source} (h : E (room - 3) price price') :
    Page.Rewriting E room (twoLines price) (twoLines price') := by
  have h : E (room - 1 - 1 - 1) price price' := h
  refine .object (.cons ⟨rfl, ?_⟩ .nil)
  rintro _ ⟨⟩
  refine .mk (.cons (.object ?_) (.cons (.object ?_) .nil))
  · simpa [LineItem.FieldRewriting] using h
  · simp [LineItem.FieldRewriting]

/-- A session with these lines. -/
def withTwoLines (customer price : Source) : Source :=
  .object [(some "id", .string (some "cs_1")), (some "customer", customer),
    (some "line_items", twoLines price)]

theorem rewriting_withTwoLines {customer customer' price price' : Source}
    (hcustomer : E (room - 1) customer customer') (hprice : E (room - 1 - 3) price price') :
    Rewriting E room (withTwoLines customer price) (withTwoLines customer' price') := by
  refine .object ?_
  simpa [FieldRewriting, hcustomer] using RewrittenOption.value (rewriting_twoLines hprice)

/-- A customer and a price are replaced by objects; a customer is no truth value. -/
theorem references_alike_of_withTwoLines :
    let w := withTwoLines (.string (some "cus_1")) (.string (some "price_1"))
    let w' := withTwoLines
      (.object [(some "name", .null), (some "id", .string (some "cus_1"))])
      (.object [(some "id", .string (some "price_1")), (some "active", .bool true)])
    let s : CheckoutSession := ⟨"cs_1", none, some "cus_1", none, none, none,
      some ⟨[⟨"li_1", some "price_1", none⟩, ⟨"li_2", none, none⟩], false⟩⟩
    decode 127 w = some s ∧ Rewriting Expansion 127 w w' ∧ decode 127 w' = some s ∧
      decode 127 (withTwoLines (.bool true) .null) = none := by
  intro w w' s
  have hs : decode 127 w = some s := by decide +kernel
  have hw : Rewriting Expansion 127 w w' :=
    rewriting_withTwoLines
      (.object ⟨⟨[(some "name", .null)], [], rfl, by simp⟩, rfl⟩)
      (.object ⟨⟨[], [(some "active", .bool true)], rfl, by simp⟩, rfl⟩)
  have hbool : HoldsReference (.bool true) (withTwoLines (.bool true) .null) :=
    .customer (.object (by simp))
  exact ⟨hs, hw, (references_alike 127 w).1 s w' hs hw,
    (references_alike 127 _).2.2.2 _ hbool (.bool true)⟩

/-- A session in text, with a value for the customer. -/
def sessionWith (customer : String) : String :=
  "\x7b\"id\":\"cs_1\",\"customer\":" ++ customer ++ "\x7d"

/-- The id of a customer does not mean the same in an array, nor in an object of which another member
is a number too large to be read. -/
theorem not_references_alike :
    (decode.run? (sessionWith "\"cus_1\"")).map (·.customer) = some (some "cus_1") ∧
    (decode.run? (sessionWith "\x7b\"id\":\"cus_1\"\x7d")).map (·.customer) = some (some "cus_1") ∧
    decode.run? (sessionWith "[\"cus_1\"]") = none ∧
    decode.run? (sessionWith "\x7b\"id\":\"cus_1\",\"x\":1e999\x7d") = none := by
  decide +kernel

end CheckoutSession

end OrgBilling.Provider
