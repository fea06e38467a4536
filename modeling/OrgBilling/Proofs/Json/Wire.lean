import OrgBilling.Catalog.Price
import OrgBilling.Catalog.Product
import OrgBilling.Proofs.Json.Reading
import OrgBilling.Proofs.Uuid
import OrgBilling.Provider.Basic
import OrgBilling.Subscription.Basic

/-!
# Records are read back from their text

A decoder works on what has been read from a text, and what is read from the text of a value is the
value as written (`Source.read?_text`). So it is enough to follow each decoder on the JSON that its
type is written as: the simple ones, optional values and lists, and records, whose members are found
by their names (`Decoder.reads_record`). A record gives a decoder for each of its fields some room to
open containers in, so a decoder is told how much it needs (`Decoder.Reads`).

Types that stand for words of the machine hold any number here. `Fits` says for each record that its
numbers are those of the words. Then its text is read back as the record (`records_round_trip`).
-/

namespace OrgBilling

open Source (ofJson ofItems ofMembers)

/-! ### Ranges -/

/-- A signed word of 64 bits holds the number. -/
def IsInt64 (i : Int) : Prop :=
  -2 ^ 63 ≤ i ∧ i < 2 ^ 63

/-- A signed word of 32 bits holds the number. -/
def IsInt32 (i : Int) : Prop :=
  -2 ^ 31 ≤ i ∧ i < 2 ^ 31

/-- An unsigned word of 64 bits holds the number. -/
def IsNat64 (n : Nat) : Prop :=
  n < 2 ^ 64

/-- The id has 128 bits. -/
def Uuid.Fits (u : Uuid) : Prop :=
  u.value < 2 ^ 128

instance : DecidablePred IsInt64 := fun i => inferInstanceAs (Decidable (-2 ^ 63 ≤ i ∧ i < 2 ^ 63))

instance : DecidablePred IsInt32 := fun i => inferInstanceAs (Decidable (-2 ^ 31 ≤ i ∧ i < 2 ^ 31))

instance : DecidablePred Uuid.Fits := fun u => inferInstanceAs (Decidable (u.value < 2 ^ 128))

namespace Decoder

variable {α : Type} {room : Nat}

/-! ### Simple values -/

@[simp] theorem text_ofJson (s : String) : text room (ofJson (.string s)) = some s := rfl

@[simp] theorem bool_ofJson (b : Bool) : bool room (ofJson (.bool b)) = some b := rfl

theorem intBetween_ofJson {lo hi i : Int} (h : lo ≤ i ∧ i ≤ hi) :
    intBetween lo hi room (ofJson (.int i)) = some i := by
  rw [ofJson, intBetween, Source.toInt?_numeralOfInt]
  simp [Option.filter, h]

theorem int64_ofJson {i : Int} (h : IsInt64 i) : int64 room (ofJson (.int i)) = some i :=
  intBetween_ofJson ⟨h.1, Int.le_sub_one_of_lt h.2⟩

theorem int32_ofJson {i : Int} (h : IsInt32 i) : int32 room (ofJson (.int i)) = some i :=
  intBetween_ofJson ⟨h.1, Int.le_sub_one_of_lt h.2⟩

theorem nat64_ofJson {n : Nat} (h : IsNat64 n) : nat64 room (ofJson (.int n)) = some n := by
  have hlt : (n : Int) < 2 ^ 64 := by exact_mod_cast h
  have hint : intBetween 0 (Int.pow 2 64 - 1) room (ofJson (.int n)) = some (n : Int) :=
    intBetween_ofJson ⟨Int.natCast_nonneg n, Int.le_sub_one_of_lt hlt⟩
  rw [nat64, hint, Option.map_some, Int.toNat_natCast]

@[simp] theorem reference_ofJson (s : Option String) :
    reference room (ofJson (.ofOption s)) = some s := by
  cases s <;> rfl

theorem uuid_ofJson {u : Uuid} (h : u.Fits) : Uuid.decode room (ofJson u.toJson) = some u := by
  rw [Uuid.decode, Uuid.toJson, text_ofJson, Option.bind_eq_bind, Option.bind_some,
    Uuid.parse?_text h]

@[simp] theorem status_ofJson (s : SubscriptionStatus) :
    SubscriptionStatus.decode room (ofJson s.toJson) = some s :=
  SubscriptionStatus.lookup_name s

@[simp] theorem interval_ofJson (i : Interval) : Interval.decode room (ofJson i.toJson) = some i :=
  Interval.lookup_name i

/-! ### Optional values and lists -/

@[simp] theorem optionText_ofJson (s : Option String) :
    option text room (ofJson (.ofOption s)) = some s := by
  cases s <;> rfl

theorem ofJson_ne_null {j : Json} (h : j ≠ .null) : ofJson j ≠ .null := by
  cases j <;> simp_all [ofJson]

theorem option_ofJson {d : Decoder α} {toJson : α → Json} {o : Option α}
    (h : ∀ a ∈ o, d room (ofJson (toJson a)) = some a) (hnull : ∀ a, toJson a ≠ .null) :
    option d room (ofJson ((o.map toJson).getD .null)) = some o := by
  cases o with
  | none => rfl
  | some a =>
    rw [Option.map_some, Option.getD_some, option, h a rfl, Option.map_some]
    exact ofJson_ne_null (hnull a)

theorem list_ofJson {d : Decoder α} {toJson : α → Json} {xs : List α}
    (h : ∀ a ∈ xs, d room (ofJson (toJson a)) = some a) :
    list d (room + 1) (ofJson (.array (xs.map toJson))) = some xs := by
  rw [ofJson, list]
  induction xs with
  | nil => rfl
  | cons a xs ih =>
    obtain ⟨ha, hxs⟩ := List.forall_mem_cons.1 h
    rw [List.map_cons, ofItems, List.mapM_cons, ha, ih hxs]
    rfl

/-! ### Records -/

/-- The members of a record as they are written. -/
def written (fields : List (String × Json)) : List (String × Source) :=
  fields.map fun (name, j) => (name, ofJson j)

@[simp] theorem lookup_written (fields : List (String × Json)) (name : String) :
    (written fields).lookup name = (fields.lookup name).map ofJson := by
  induction fields with
  | nil => rfl
  | cons m ms ih =>
    rw [written, List.map_cons, List.lookup_cons, List.lookup_cons, ← written, ih]
    split <;> rfl

theorem members?_object {fields : List (String × Json)} (h : (fields.map (·.1)).Nodup) (room : Nat) :
    members? (fields.map (·.1)) (room + 1) (ofJson (.object fields)) =
      some ⟨false, room, written fields⟩ := by
  have hreadable : (ofMembers fields).mapM (fun m => m.1.map (·, m.2)) =
      some (written fields) := by
    clear h
    induction fields with
    | nil => rfl
    | cons m ms ih =>
      rw [ofMembers, List.mapM_cons, ih]
      rfl
  have hknown : (written fields).filter (fun m => (fields.map (·.1)).contains m.1) =
      written fields := by
    refine List.filter_eq_self.2 fun m hm => ?_
    obtain ⟨m', hm', rfl⟩ := List.mem_map.1 hm
    exact List.contains_iff_mem.2 (List.mem_map_of_mem hm')
  have hnames : ((written fields).map (·.1)).Nodup := by
    rwa [written, List.map_map]
  rw [ofJson, members?, hreadable, Option.bind_eq_bind, Option.bind_some, hknown, if_pos hnames]

/-- A decoder reads a value from the JSON that stands for it wherever it may open so many
containers. -/
def Reads (d : Decoder α) (depth : Nat) (j : Json) (a : α) : Prop :=
  ∀ room, depth ≤ room → d room (ofJson j) = some a

/-- A record is read if it is put together from its members. -/
theorem reads_record {names : List String} {build : Members → Option α} {depth : Nat}
    {fields : List (String × Json)} {a : α} (hnames : fields.map (·.1) = names)
    (hnodup : names.Nodup)
    (h : ∀ room, depth ≤ room → build ⟨false, room, written fields⟩ = some a) :
    (record names build).Reads (depth + 1) (.object fields) a := by
  intro room hroom
  obtain ⟨room, rfl⟩ : ∃ n, room = n + 1 := ⟨room - 1, by omega⟩
  subst hnames
  rw [record, members?_object hnodup, Option.bind_eq_bind, Option.bind_some]
  exact h room (by omega)

/-- Every value that fits is read back from its text. -/
def RoundTrips (d : Decoder α) (toJson : α → Json) (Fits : α → Prop) : Prop :=
  ∀ a, Fits a → d.run? (toJson a).text = some a

theorem roundTrips {d : Decoder α} {toJson : α → Json} {Fits : α → Prop} {depth : Nat}
    (h : ∀ a, Fits a → d.Reads depth (toJson a) a) (hdepth : depth ≤ Source.maxNesting) :
    RoundTrips d toJson Fits := by
  intro a ha
  rw [run?, Source.read?_text, Option.bind_eq_bind, Option.bind_some]
  exact h a ha _ hdepth

end Decoder

open Decoder

/-! ### Records of the provider -/

namespace Provider

/-- The time of a product is kept in a word. -/
def Product.Fits (p : Product) : Prop :=
  IsInt64 p.created

/-- The time and the amount of a price are kept in words. -/
def Price.Fits (p : Price) : Prop :=
  IsInt64 p.created ∧ ∀ amount ∈ p.unitAmount, IsInt64 amount

/-- The quantity of a line is kept in a word. -/
def LineItem.Fits (l : LineItem) : Prop :=
  ∀ n ∈ l.quantity, IsNat64 n

/-- The lines of a session fit. -/
def CheckoutSession.Fits (s : CheckoutSession) : Prop :=
  ∀ lines ∈ s.lineItems, ∀ l ∈ lines.data, l.Fits

theorem reads_product {p : Product} (h : p.Fits) : Product.decode.Reads 1 p.toJson p := by
  refine reads_record rfl (by simp) fun room _ => ?_
  simp [Members.required, Members.withDefault, List.lookup_cons, int64_ofJson h]

theorem reads_recurring (r : Recurring) : Recurring.decode.Reads 1 r.toJson r := by
  refine reads_record rfl (by simp) fun room _ => ?_
  simp [Members.required]

theorem reads_price {p : Price} (h : p.Fits) : Price.decode.Reads 2 p.toJson p := by
  refine reads_record rfl (by simp) fun room hroom => ?_
  have amount : option int64 room (ofJson ((p.unitAmount.map Json.int).getD .null)) =
      some p.unitAmount :=
    option_ofJson (fun _ ha => int64_ofJson (h.2 _ ha)) fun _ => by simp
  have recurring : option Recurring.decode room
      (ofJson ((p.recurring.map Recurring.toJson).getD .null)) = some p.recurring :=
    option_ofJson (fun r _ => reads_recurring r room hroom) fun _ => by simp [Recurring.toJson]
  simp [Members.required, Members.withDefault, List.lookup_cons, int64_ofJson h.1, amount, recurring]

theorem reads_customer (c : Customer) : Customer.decode.Reads 1 c.toJson c := by
  refine reads_record rfl (by simp) fun room _ => ?_
  simp [Members.required, Members.withDefault, List.lookup_cons]

theorem reads_page {α : Type} {d : Decoder α} {toJson : α → Json} {depth : Nat} {p : Page α}
    (h : ∀ a ∈ p.data, d.Reads depth (toJson a) a) :
    (Page.decode d).Reads (depth + 2) (p.toJson toJson) p := by
  refine reads_record rfl (by simp) fun room hroom => ?_
  obtain ⟨room, rfl⟩ : ∃ n, room = n + 1 := ⟨room - 1, by omega⟩
  have data : list d (room + 1) (ofJson (.array (p.data.map toJson))) = some p.data :=
    list_ofJson fun a ha => h a ha room (by omega)
  simp [Members.required, Members.withDefault, List.lookup_cons, data]

theorem reads_lineItem {l : LineItem} (h : l.Fits) : LineItem.decode.Reads 1 l.toJson l := by
  have toJson_eq : l.toJson = .object
      [("id", .string l.id), ("price", .ofOption l.price),
       ("quantity", (l.quantity.map fun n : Nat => Json.int n).getD .null)] := by
    cases hquantity : l.quantity <;> simp [LineItem.toJson, hquantity]
  rw [toJson_eq]
  refine reads_record rfl (by simp) fun room _ => ?_
  have quantity : option nat64 room
      (ofJson ((l.quantity.map fun n : Nat => Json.int n).getD .null)) = some l.quantity :=
    option_ofJson (fun _ ha => nat64_ofJson (h _ ha)) fun _ => by simp
  simp [Members.required, Members.withDefault, List.lookup_cons, quantity]

theorem reads_checkoutSession {s : CheckoutSession} (h : s.Fits) :
    CheckoutSession.decode.Reads 4 s.toJson s := by
  refine reads_record rfl (by simp) fun room hroom => ?_
  have lines : option (Page.decode LineItem.decode) room
      (ofJson ((s.lineItems.map (Page.toJson LineItem.toJson)).getD .null)) = some s.lineItems :=
    option_ofJson (fun lines hlines =>
      reads_page (fun l hl => reads_lineItem (h lines hlines l hl)) room hroom)
      fun _ => by simp [Page.toJson]
  simp [Members.required, Members.withDefault, List.lookup_cons, lines]

theorem reads_portalSession (s : PortalSession) : PortalSession.decode.Reads 1 s.toJson s := by
  refine reads_record rfl (by simp) fun room _ => ?_
  simp [Members.required, Members.withDefault, List.lookup_cons]

theorem reads_deleted (d : Deleted) : Deleted.decode.Reads 1 d.toJson d := by
  refine reads_record rfl (by simp) fun room _ => ?_
  simp [Members.required, Members.withDefault, List.lookup_cons]

end Provider

/-! ### Records of the database -/

/-- The ids of a subscription have 128 bits. -/
def Subscription.Fits (s : Subscription) : Prop :=
  s.id.Fits ∧ s.price.Fits

/-- The ids of a link have 128 bits. -/
def OrganizationLink.Fits (l : OrganizationLink) : Prop :=
  l.id.Fits ∧ l.organization.Fits ∧ l.subscription.Fits

/-- The ids of an item have 128 bits, and its quantity is kept in a word. -/
def SubscriptionItem.Fits (i : SubscriptionItem) : Prop :=
  i.id.Fits ∧ i.subscription.Fits ∧ i.price.Fits ∧ IsInt32 i.quantity

/-- The id of a product has 128 bits. -/
def CatalogProduct.Fits (p : CatalogProduct) : Prop :=
  p.id.Fits

/-- The ids of a price have 128 bits, and its amount is kept in a word. -/
def CatalogPrice.Fits (p : CatalogPrice) : Prop :=
  p.id.Fits ∧ p.product.Fits ∧ IsInt32 p.unitAmount

theorem reads_subscription {s : Subscription} (h : s.Fits) :
    Subscription.decode.Reads 1 s.toJson s := by
  refine reads_record rfl (by simp) fun room _ => ?_
  simp [Members.required, List.lookup_cons, uuid_ofJson h.1, uuid_ofJson h.2]

theorem reads_organizationLink {l : OrganizationLink} (h : l.Fits) :
    OrganizationLink.decode.Reads 1 l.toJson l := by
  refine reads_record rfl (by simp) fun room _ => ?_
  simp [Members.required, List.lookup_cons, uuid_ofJson h.1, uuid_ofJson h.2.1, uuid_ofJson h.2.2]

theorem reads_subscriptionItem {i : SubscriptionItem} (h : i.Fits) :
    SubscriptionItem.decode.Reads 1 i.toJson i := by
  obtain ⟨hid, hsubscription, hprice, hquantity⟩ := h
  refine reads_record rfl (by simp) fun room _ => ?_
  simp [Members.required, Members.nullable, List.lookup_cons, uuid_ofJson hid,
    uuid_ofJson hsubscription, uuid_ofJson hprice, int32_ofJson hquantity]

theorem reads_catalogProduct {p : CatalogProduct} (h : p.Fits) :
    CatalogProduct.decode.Reads 1 p.toJson p := by
  refine reads_record rfl (by simp) fun room _ => ?_
  simp [Members.required, Members.nullable, List.lookup_cons, uuid_ofJson h]

theorem reads_catalogPrice {p : CatalogPrice} (h : p.Fits) :
    CatalogPrice.decode.Reads 1 p.toJson p := by
  obtain ⟨hid, hproduct, hamount⟩ := h
  refine reads_record rfl (by simp) fun room _ => ?_
  simp [Members.required, Members.nullable, List.lookup_cons, uuid_ofJson hid, uuid_ofJson hproduct,
    int32_ofJson hamount]

/-! ### All records -/

/-- Decoding the text of a record gives the record back, whatever its texts are, whatever fields are
absent, and whatever numbers its words hold. -/
theorem records_round_trip :
    RoundTrips Provider.Product.decode Provider.Product.toJson Provider.Product.Fits ∧
    RoundTrips Provider.Recurring.decode Provider.Recurring.toJson (fun _ => True) ∧
    RoundTrips Provider.Price.decode Provider.Price.toJson Provider.Price.Fits ∧
    RoundTrips Provider.Customer.decode Provider.Customer.toJson (fun _ => True) ∧
    RoundTrips Provider.CheckoutSession.decode Provider.CheckoutSession.toJson
      Provider.CheckoutSession.Fits ∧
    RoundTrips Provider.LineItem.decode Provider.LineItem.toJson Provider.LineItem.Fits ∧
    RoundTrips Provider.PortalSession.decode Provider.PortalSession.toJson (fun _ => True) ∧
    RoundTrips Provider.Deleted.decode Provider.Deleted.toJson (fun _ => True) ∧
    RoundTrips (Provider.Page.decode Provider.Product.decode)
      (Provider.Page.toJson Provider.Product.toJson) (fun page => ∀ p ∈ page.data, p.Fits) ∧
    RoundTrips (Provider.Page.decode Provider.Price.decode)
      (Provider.Page.toJson Provider.Price.toJson) (fun page => ∀ p ∈ page.data, p.Fits) ∧
    RoundTrips Subscription.decode Subscription.toJson Subscription.Fits ∧
    RoundTrips OrganizationLink.decode OrganizationLink.toJson OrganizationLink.Fits ∧
    RoundTrips CatalogProduct.decode CatalogProduct.toJson CatalogProduct.Fits ∧
    RoundTrips CatalogPrice.decode CatalogPrice.toJson CatalogPrice.Fits ∧
    RoundTrips SubscriptionItem.decode SubscriptionItem.toJson SubscriptionItem.Fits := by
  refine ⟨?_, ?_, ?_, ?_, ?_, ?_, ?_, ?_, ?_, ?_, ?_, ?_, ?_, ?_, ?_⟩
  · exact roundTrips (fun _ => Provider.reads_product) (by decide)
  · exact roundTrips (fun r _ => Provider.reads_recurring r) (by decide)
  · exact roundTrips (fun _ => Provider.reads_price) (by decide)
  · exact roundTrips (fun c _ => Provider.reads_customer c) (by decide)
  · exact roundTrips (fun _ => Provider.reads_checkoutSession) (by decide)
  · exact roundTrips (fun _ => Provider.reads_lineItem) (by decide)
  · exact roundTrips (fun s _ => Provider.reads_portalSession s) (by decide)
  · exact roundTrips (fun d _ => Provider.reads_deleted d) (by decide)
  · exact roundTrips (fun _ h => Provider.reads_page fun p hp => Provider.reads_product (h p hp))
      (by decide)
  · exact roundTrips (fun _ h => Provider.reads_page fun p hp => Provider.reads_price (h p hp))
      (by decide)
  · exact roundTrips (fun _ => reads_subscription) (by decide)
  · exact roundTrips (fun _ => reads_organizationLink) (by decide)
  · exact roundTrips (fun _ => reads_catalogProduct) (by decide)
  · exact roundTrips (fun _ => reads_catalogPrice) (by decide)
  · exact roundTrips (fun _ => reads_subscriptionItem) (by decide)

/-- A price with the least time, the greatest amount, and a text in which every character but one
needs an escape. -/
def extremePrice : Provider.Price :=
  ⟨"\"\\\n\x01é", true, -2 ^ 63, "", some (2 ^ 63 - 1), "", some ⟨"month"⟩, none⟩

/-- An item with the least quantity and the greatest ids. -/
def extremeItem : SubscriptionItem :=
  ⟨⟨2 ^ 128 - 1⟩, none, ⟨2 ^ 128 - 1⟩, ⟨0⟩, -2 ^ 31⟩

/-- Numbers at the ends of their ranges are read back. -/
theorem records_round_trip_of_extremes :
    extremePrice.Fits ∧
    Provider.Price.decode.run? extremePrice.toJson.text = some extremePrice ∧
    extremeItem.Fits ∧
    SubscriptionItem.decode.run? extremeItem.toJson.text = some extremeItem := by
  obtain ⟨-, -, prices, -, -, -, -, -, -, -, -, -, -, -, items⟩ := records_round_trip
  have hprice : extremePrice.Fits := by
    refine ⟨by decide, fun amount hamount => ?_⟩
    cases hamount
    decide
  have hitem : extremeItem.Fits := ⟨by decide, by decide, by decide, by decide⟩
  exact ⟨hprice, prices _ hprice, hitem, items _ hitem⟩

end OrgBilling
