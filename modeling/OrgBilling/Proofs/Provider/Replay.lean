import OrgBilling.Proofs.Provider.Policy

/-!
# Sending details of products again

The provider in memory finds the product that details go to by their name. Once details of a name
have been sent, the name leads to the same product for good, whatever is sent under other names and
whatever prices are made (`target?_createOrUpdateProduct`). The product then has the last details
that were sent under its name.

So when a row of details has been sent, sending the whole row again ends where it began
(`Settled.again`), even though on the way there it may give a product details that were overwritten
the first time too. Only the last details of each product count for where it ends
(`reviseProducts_eq`).
-/

namespace OrgBilling.Provider.Sandbox

variable {s s' : Sandbox}

/-! ### What a name leads to -/

theorem newest_map {f : Product → Product} (hf : ∀ p, (f p).created = p.created)
    (ps : List Product) : newest (ps.map f) = (newest ps).map f := by
  induction ps with
  | nil => rfl
  | cons p ps ih =>
    rw [List.map_cons, newest, newest, ih]
    cases newest ps with
    | none => rfl
    | some q =>
      simp only [Option.map_some, hf]
      split <;> rfl

/-- New details under the name that a product has do not change what names lead to. -/
theorem target?_reviseProduct (h : s.Sound) {p : Product} (hp : p ∈ s.products) {d : ProductDetails}
    (hname : p.name = d.name) (name : String) :
    (s.reviseProduct p.id d).target? name =
      (s.target? name).map fun q => if q.id = p.id then revised d q else q := by
  have named : (s.reviseProduct p.id d).productsNamed name =
      (s.productsNamed name).map fun q => if q.id = p.id then revised d q else q := by
    rw [productsNamed, reviseProduct, List.filter_map, productsNamed]
    congr 1
    refine List.filter_congr fun q hq => ?_
    simp only [Function.comp]
    split
    · next hid =>
      obtain rfl := List.inj_on_of_nodup_map h.products.nodup hq hp hid
      simp [revised, hname]
    · rfl
  rw [target?, named, ← List.map_take, newest_map (fun q => by split <;> rfl), target?]

/-- After details have been sent their name leads to the product that they went to, and every other
name leads where it led before. -/
theorem target?_createOrUpdateProduct (h : s.Sound) {d : ProductDetails} {r : Product}
    (hon : (createOrUpdateProduct d).on s = (.ok r, s')) (name : String) :
    s'.target? name = if name = d.name then some r else s.target? name := by
  rw [on_createOrUpdateProduct h] at hon
  cases htarget : s.target? d.name with
  | none =>
    rw [htarget] at hon
    cases hon
    have named : (s.addProduct d).productsNamed name =
        s.productsNamed name ++ if name = d.name then [newProduct d s.next] else [] := by
      rw [productsNamed, addProduct, List.filter_append, productsNamed]
      by_cases hname : name = d.name
      · simp [newProduct, hname]
      · simp [newProduct, hname, Ne.symm hname]
    by_cases hname : name = d.name
    · have none : s.productsNamed name = [] := by
        rw [hname]
        simpa using newest_eq_none htarget
      rw [target?, named, none, if_pos hname, if_pos hname]
      rfl
    · rw [target?, named, if_neg hname, if_neg hname, List.append_nil, target?]
  | some p =>
    rw [htarget] at hon
    cases hon
    obtain ⟨hp, -, hname⟩ := mem_of_target? htarget
    rw [target?_reviseProduct h hp hname]
    split
    · next heq => rw [heq, htarget, Option.map_some, if_pos rfl]
    · next hne =>
      cases hq : s.target? name with
      | none => rfl
      | some q =>
        obtain ⟨hq, -, hqname⟩ := mem_of_target? hq
        have hid : q.id ≠ p.id := fun hid => hne <| by
          rw [← hqname, ← hname, List.inj_on_of_nodup_map h.products.nodup hq hp hid]
        rw [Option.map_some, if_neg hid]

/-! ### New details one after the other -/

/-- The provider with new details of the products with the given ids, one after the other. -/
def reviseProducts (ds : List (String × ProductDetails)) (s : Sandbox) : Sandbox :=
  ds.foldl (fun s d => s.reviseProduct d.1 d.2) s

theorem reviseProducts_concat (ds : List (String × ProductDetails)) (id : String) (d : ProductDetails)
    (s : Sandbox) : s.reviseProducts (ds ++ [(id, d)]) = (s.reviseProducts ds).reviseProduct id d :=
  List.foldl_append

/-- The last details for the product with an id. -/
def lastFor (id : String) (ds : List (String × ProductDetails)) : Option ProductDetails :=
  (ds.filter (·.1 == id)).getLast?.map (·.2)

theorem lastFor_concat (id id' : String) (ds : List (String × ProductDetails))
    (d : ProductDetails) :
    lastFor id (ds ++ [(id', d)]) = if id' = id then some d else lastFor id ds := by
  rw [lastFor, List.filter_append]
  by_cases h : id' = id
  · simp [h]
  · simp [h, lastFor]

/-- Each product ends with the last details for it, and nothing else changes. -/
theorem reviseProducts_eq (ds : List (String × ProductDetails)) (s : Sandbox) :
    s.reviseProducts ds =
      { s with products := s.products.map fun p => (lastFor p.id ds).elim p (revised · p) } := by
  induction ds using List.reverseRecOn with
  | nil => simp [reviseProducts, lastFor]
  | append_singleton ds x ih =>
    obtain ⟨id, d⟩ := x
    rw [reviseProducts_concat, ih]
    simp only [reviseProduct, List.map_map]
    congr 1
    refine List.map_congr_left fun p _ => ?_
    have same : ((lastFor p.id ds).elim p (revised · p)).id = p.id := by
      cases lastFor p.id ds <;> rfl
    rw [Function.comp_apply, lastFor_concat, same]
    by_cases h : p.id = id
    · rw [if_pos h, if_pos h.symm]
      cases lastFor p.id ds <;> rfl
    · rw [if_neg h, if_neg (Ne.symm h)]

theorem reviseProducts_congr {ds ds' : List (String × ProductDetails)}
    (h : ∀ p ∈ s.products, lastFor p.id ds = lastFor p.id ds') :
    s.reviseProducts ds = s.reviseProducts ds' := by
  rw [reviseProducts_eq, reviseProducts_eq]
  congr 1
  exact List.map_congr_left fun p hp => by rw [h p hp]

/-- Details that come at the end need not come at the beginning as well. -/
theorem reviseProduct_reviseProducts (id : String) (d : ProductDetails)
    (ds : List (String × ProductDetails)) (s : Sandbox) :
    ((s.reviseProduct id d).reviseProducts ds).reviseProduct id d =
      (s.reviseProducts ds).reviseProduct id d := by
  have first : (s.reviseProduct id d).reviseProducts ds = s.reviseProducts ((id, d) :: ds) := rfl
  rw [first, ← reviseProducts_concat, ← reviseProducts_concat]
  refine reviseProducts_congr fun p _ => ?_
  rw [lastFor_concat, lastFor_concat]
  split
  · rfl
  · next h => rw [lastFor, List.filter_cons_of_neg (by simpa using h), lastFor]

/-- No product has the id that the next one will get. -/
theorem Sound.id_ne_next (h : s.Sound) {p : Product} (hp : p ∈ s.products) :
    p.id ≠ objectId "prod" s.next := by
  obtain ⟨n, hn, hid, -⟩ := h.products.made p hp
  rw [hid]
  exact fun heq => Nat.ne_of_lt hn (objectId_inj heq)

theorem reviseProducts_addProduct {ds : List (String × ProductDetails)}
    (hds : ∀ x ∈ ds, x.1 ≠ objectId "prod" s.next) (d : ProductDetails) :
    (s.addProduct d).reviseProducts ds = (s.reviseProducts ds).addProduct d := by
  induction ds generalizing s with
  | nil => rfl
  | cons x ds ih =>
    obtain ⟨hx, hds⟩ := List.forall_mem_cons.1 hds
    have other : (s.addProduct d).reviseProduct x.1 x.2 = (s.reviseProduct x.1 x.2).addProduct d := by
      simp [reviseProduct, addProduct, newProduct, Ne.symm hx]
    show ((s.addProduct d).reviseProduct x.1 x.2).reviseProducts ds = _
    rw [other]
    exact ih hds

theorem reviseProduct_addProduct (h : s.Sound) (d : ProductDetails) :
    (s.addProduct d).reviseProduct (newProduct d s.next).id d = s.addProduct d := by
  have others : s.products.map (fun p => if p.id = (newProduct d s.next).id then revised d p else p) =
      s.products :=
    (List.map_congr_left fun p hp => if_neg (h.id_ne_next hp)).trans (List.map_id _)
  simp only [reviseProduct, addProduct, List.map_append, others, List.map_cons, List.map_nil, if_true]
  rfl

theorem reviseProducts_replacePrice (t : PriceTerms) (ds : List (String × ProductDetails))
    (s : Sandbox) :
    (s.replacePrice t).reviseProducts ds = (s.reviseProducts ds).replacePrice t := by
  induction ds generalizing s with
  | nil => rfl
  | cons x ds ih => exact ih (s.reviseProduct x.1 x.2)

/-! ### What has been sent -/

/-- Details have been sent one after the other, each to the product with the id beside it. Each name
still leads to the product that its details went to, and sending everything again ends where it
began. -/
structure Settled (sent : List (String × ProductDetails)) (s : Sandbox) : Prop where
  sound : s.Sound
  target : ∀ x ∈ sent, ∃ p, s.target? x.2.name = some p ∧ p.id = x.1
  again : s.reviseProducts sent = s

namespace Settled

variable {sent : List (String × ProductDetails)}

theorem nil (h : s.Sound) : Settled [] s := ⟨h, List.forall_mem_nil _, rfl⟩

/-- Something more is sent. -/
theorem createOrUpdateProduct (h : Settled sent s) {d : ProductDetails} {r : Product}
    (hon : (createOrUpdateProduct d).on s = (.ok r, s')) : Settled (sent ++ [(r.id, d)]) s' where
  sound := (createOrUpdateProduct_ok h.sound hon).1
  target := by
    have leads := target?_createOrUpdateProduct h.sound hon
    refine List.forall_mem_append.2 ⟨fun x hx => ?_, List.forall_mem_singleton.2 ?_⟩
    · rw [leads]
      split
      · next hname =>
        -- The name led to this product already, so the details went to it.
        obtain ⟨p, hp, hid⟩ := h.target x hx
        rw [hname] at hp
        rw [on_createOrUpdateProduct h.sound, hp] at hon
        cases hon
        exact ⟨_, rfl, hid⟩
      · exact h.target x hx
    · exact ⟨r, by rw [leads, if_pos rfl], rfl⟩
  again := by
    rw [reviseProducts_concat]
    rw [on_createOrUpdateProduct h.sound] at hon
    cases htarget : s.target? d.name with
    | some p =>
      rw [htarget] at hon
      cases hon
      exact (reviseProduct_reviseProducts p.id d sent s).trans (by rw [h.again])
    | none =>
      rw [htarget] at hon
      cases hon
      have others : ∀ x ∈ sent, x.1 ≠ objectId "prod" s.next := fun x hx => by
        obtain ⟨p, hp, hid⟩ := h.target x hx
        exact hid ▸ h.sound.id_ne_next (mem_of_target? hp).1
      rw [reviseProducts_addProduct others, h.again, reviseProduct_addProduct h.sound]

/-- Prices do not matter. -/
theorem createOrUpdatePrice (h : Settled sent s) {t : PriceTerms} {r : Price}
    (hon : (createOrUpdatePrice t).on s = (.ok r, s')) : Settled sent s' := by
  obtain ⟨-, rfl⟩ := createOrUpdatePrice_ok h.sound hon
  exact ⟨h.sound.replacePrice t, h.target, by rw [reviseProducts_replacePrice, h.again]⟩

end Settled

end OrgBilling.Provider.Sandbox
