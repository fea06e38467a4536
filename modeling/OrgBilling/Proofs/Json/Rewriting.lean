import OrgBilling.Json.Decoder
import Mathlib.Data.List.Forall2

/-!
# Decoding a value that has been rewritten

Some of the values inside a record are replaced by others, and the record is decoded again. What
comes of it is said field by field: a decoder follows a rewriting of values if what it reads from the
old value it reads, up to a relation on the results, from the new one (`Follows`). If the decoders of
the fields follow the rewriting of their values, then the decoder of the record follows the rewriting
of records (`Follows.record`), in the form of an object or of an array.

Which values a record has under a name can be seen in both forms (`HasField`), and that is what the
field is read from (`lookup_eq_some_iff_hasField`).
-/

namespace OrgBilling.Decoder

variable {α β : Type} {room : Nat} {names : List String} {name : String}

/-! ### Lists -/

theorem mapM_eq_some_iff {f : α → Option β} {xs : List α} {ys : List β} :
    xs.mapM f = some ys ↔ List.Forall₂ (fun x y => f x = some y) xs ys := by
  induction xs generalizing ys with
  | nil => simp [eq_comm]
  | cons x xs ih =>
    simp only [List.mapM_cons, Option.bind_eq_bind, Option.bind_eq_some_iff, Option.pure_def,
      Option.some.injEq, List.forall₂_cons_left_iff, ih]
    constructor
    · rintro ⟨y, hy, ys, hys, rfl⟩
      exact ⟨y, ys, hy, hys, rfl⟩
    · rintro ⟨y, ys, hy, hys, rfl⟩
      exact ⟨y, hy, ys, hys, rfl⟩

/-- What holds of each two elements holds of lists that are mapped element by element. -/
theorem exists_mapM_of_forall₂ {f : α → Option β} {P : α → α → Prop} {Q : β → β → Prop}
    (h : ∀ x x' y, P x x' → f x = some y → ∃ y', f x' = some y' ∧ Q y y') {xs xs' : List α}
    {ys : List β} (hxs : List.Forall₂ P xs xs') (hys : xs.mapM f = some ys) :
    ∃ ys', xs'.mapM f = some ys' ∧ List.Forall₂ Q ys ys' := by
  simp only [mapM_eq_some_iff] at hys ⊢
  induction hxs generalizing ys with
  | nil =>
    cases hys
    exact ⟨[], .nil, .nil⟩
  | cons hx _ ih =>
    cases hys with
    | cons hy hys =>
      obtain ⟨y', hy', hQ⟩ := h _ _ _ hx hy
      obtain ⟨ys', hys', hQs⟩ := ih hys
      exact ⟨y' :: ys', .cons hy' hys', .cons hQ hQs⟩

theorem exists_of_mem_of_forall₂ {R : α → β → Prop} {xs : List α} {ys : List β}
    (h : List.Forall₂ R xs ys) {x : α} (hx : x ∈ xs) : ∃ y ∈ ys, R x y := by
  induction h with
  | nil => cases hx
  | @cons a b _ _ hab _ ih =>
    rcases List.mem_cons.1 hx with rfl | hx
    · exact ⟨b, List.mem_cons_self, hab⟩
    · obtain ⟨y, hy, hxy⟩ := ih hx
      exact ⟨y, List.mem_cons_of_mem _ hy, hxy⟩

/-- If no name occurs twice, then looking one up finds what is listed under it. -/
theorem lookup_eq_some_iff_mem {l : List (String × α)} (h : (l.map (·.1)).Nodup) {a : α} :
    l.lookup name = some a ↔ (name, a) ∈ l := by
  induction l with
  | nil => simp
  | cons m l ih =>
    obtain ⟨n, b⟩ := m
    obtain ⟨hn, hl⟩ := List.nodup_cons.1 h
    rw [List.lookup_cons, List.mem_cons, Prod.mk.injEq]
    by_cases heq : name = n
    · subst heq
      have hmem : (name, a) ∉ l := fun hmem => hn (List.mem_map.2 ⟨_, hmem, rfl⟩)
      simp [hmem, eq_comm]
    · simp only [beq_eq_false_iff_ne.2 heq, ih hl, heq, false_and, false_or]

theorem map_fst_zip_sublist (xs : List α) (ys : List β) :
    ((xs.zip ys).map (·.1)).Sublist xs := by
  induction xs generalizing ys with
  | nil => simp
  | cons x xs ih =>
    cases ys with
    | nil => simp
    | cons y ys => simpa using ih ys

/-! ### Following a rewriting -/

/-- A decoder follows a rewriting of values: it reads something like it from the new value when it
reads something from the old one. -/
def Follows (d : Decoder α) (room : Nat) (P : Source → Source → Prop) (Q : α → α → Prop) : Prop :=
  ∀ ⦃v v' a⦄, P v v' → d room v = some a → ∃ a', d room v' = some a' ∧ Q a a'

theorem follows_eq (d : Decoder α) (room : Nat) : Follows d room Eq Eq := by
  rintro v _ a rfl ha
  exact ⟨a, ha, rfl⟩

/-- The items of an array are rewritten. -/
inductive RewrittenItems (P : Source → Source → Prop) : Source → Source → Prop where
  | mk {items items' : List Source} (h : List.Forall₂ P items items') :
    RewrittenItems P (.array items) (.array items')

theorem option_of_ne_null {d : Decoder α} {v : Source} (ne : v ≠ .null) :
    option d room v = (d room v).map some := by
  cases v <;> first | rfl | exact absurd rfl ne

/-- A value is rewritten unless it is `null`. -/
inductive RewrittenOption (P : Source → Source → Prop) : Source → Source → Prop where
  | null : RewrittenOption P .null .null
  | value {v v' : Source} (h : P v v') : RewrittenOption P v v'

namespace Follows

variable {d : Decoder α} {P : Source → Source → Prop} {Q : α → α → Prop}

theorem list (h : Follows d (room - 1) P Q) :
    Follows (Decoder.list d) room (RewrittenItems P) (List.Forall₂ Q) := by
  rintro _ _ as ⟨hitems⟩ has
  cases room with
  | zero => cases has
  | succ room => exact exists_mapM_of_forall₂ (fun _ _ _ hP hd => h hP hd) hitems has

theorem option (h : Follows d room P Q) (ne : ∀ v v', P v v' → v ≠ .null ∧ v' ≠ .null) :
    Follows (Decoder.option d) room (RewrittenOption P) (Option.Rel Q) := by
  rintro v v' a (_ | ⟨hP⟩) ha
  · cases ha
    exact ⟨none, rfl, .none⟩
  · rw [option_of_ne_null (ne v v' hP).1] at ha
    obtain ⟨b, hb, rfl⟩ := Option.map_eq_some_iff.1 ha
    obtain ⟨b', hb', hQ⟩ := h hP hb
    exact ⟨some b', by rw [option_of_ne_null (ne v v' hP).2, hb']; rfl, .some hQ⟩

end Follows

/-- A list is read item by item. -/
theorem list_eq_some_iff {d : Decoder α} {items : List Source} {as : List α} :
    list d room (.array items) = some as ↔
      room ≠ 0 ∧ List.Forall₂ (fun v a => d (room - 1) v = some a) items as := by
  cases room with
  | zero => simp [list]
  | succ room => simp [list, mapM_eq_some_iff]

/-! ### Records -/

variable {R : String → Source → Source → Prop}

/-- The name is the same, and the value is rewritten as goes for the name. -/
def RewrittenMember (R : String → Source → Source → Prop) (m m' : String × Source) : Prop :=
  m.1 = m'.1 ∧ R m.1 m.2 m'.2

/-- The members of a record are rewritten, each as goes for its name; in an array the names of the
fields go to the items in order. -/
inductive Rewritten (names : List String) (R : String → Source → Source → Prop) :
    Source → Source → Prop where
  | object {members members' : List (Option String × Source)}
    (h : List.Forall₂ (fun m m' => m.1 = m'.1 ∧ ∀ name ∈ m.1, R name m.2 m'.2) members members') :
    Rewritten names R (.object members) (.object members')
  | array {items items' : List Source} (length : items.length = items'.length)
    (h : List.Forall₂ (RewrittenMember R) (names.zip items) (names.zip items')) :
    Rewritten names R (.array items) (.array items')

/-- A record that is rewritten is not `null`. -/
theorem Rewritten.ne_null (v v' : Source) (h : Rewritten names R v v') : v ≠ .null ∧ v' ≠ .null := by
  cases h <;> exact ⟨nofun, nofun⟩

/-- The members of a record that was rewritten, when both are taken apart. -/
structure Members.Rewritten (R : String → Source → Source → Prop) (m m' : Members) : Prop where
  positional : m.positional = m'.positional
  room : m.room = m'.room
  named : List.Forall₂ (RewrittenMember R) m.named m'.named

/-- The names of all members can be read. -/
theorem mapM_readable_eq_some_iff {members : List (Option String × Source)}
    {readable : List (String × Source)} :
    members.mapM (fun (name, v) => name.map (·, v)) = some readable ↔
      members = readable.map fun m => (some m.1, m.2) := by
  rw [mapM_eq_some_iff, ← List.forall₂_eq_eq_eq, List.forall₂_map_right_iff]
  have member (m : Option String × Source) (m' : String × Source) :
      m.1.map (·, m.2) = some m' ↔ m = (some m'.1, m'.2) := by
    obtain ⟨name, v⟩ := m
    cases name <;> simp [Prod.ext_iff]
  simp only [member]

/-- How a record is taken apart, in either form. -/
theorem members?_cases {v : Source} {m : Members} (h : members? names room v = some m) :
    ∃ n, room = n + 1 ∧
      ((∃ items, v = .array items ∧ items.length ≤ names.length ∧
          m = ⟨true, n, names.zip items⟩) ∨
        ∃ readable : List (String × Source),
          v = .object (readable.map fun m => (some m.1, m.2)) ∧
          ((readable.filter fun m => names.contains m.1).map (·.1)).Nodup ∧
          m = ⟨false, n, readable.filter fun m => names.contains m.1⟩) := by
  unfold members? at h
  split at h
  · next n items =>
    split at h
    · next length =>
      cases h
      exact ⟨n, rfl, .inl ⟨items, rfl, length, rfl⟩⟩
    · cases h
  · next n members =>
    obtain ⟨readable, hreadable, h⟩ := Option.bind_eq_some_iff.1 h
    dsimp only at h
    split at h
    · next nodup =>
      cases h
      rw [mapM_readable_eq_some_iff.1 hreadable]
      exact ⟨n, rfl, .inr ⟨readable, rfl, nodup, rfl⟩⟩
    · cases h
  · cases h

theorem room_members? {v : Source} {m : Members} (h : members? names room v = some m) :
    m.room = room - 1 := by
  obtain ⟨n, rfl, ⟨-, -, -, rfl⟩ | ⟨-, -, -, rfl⟩⟩ := members?_cases h <;> rfl

theorem members?_rewritten {v v' : Source} {m : Members} (h : Rewritten names R v v')
    (hm : members? names room v = some m) :
    ∃ m', members? names room v' = some m' ∧ m.Rewritten R m' := by
  obtain ⟨n, rfl, ⟨items, rfl, length, rfl⟩ | ⟨readable, rfl, nodup, rfl⟩⟩ :=
    members?_cases hm
  · cases h with
    | array lengths h =>
      rw [members?, ← lengths, if_pos length]
      exact ⟨_, rfl, rfl, rfl, h⟩
  · cases h with
    | @object _ members' h =>
      obtain ⟨readable', hreadable', hlike⟩ :=
        exists_mapM_of_forall₂ (Q := RewrittenMember R) (by
          rintro ⟨name, v⟩ ⟨name', v'⟩ y ⟨heq, hR⟩ hy
          obtain rfl : name = name' := heq
          obtain ⟨n, rfl, rfl⟩ := Option.map_eq_some_iff.1 hy
          exact ⟨(n, v'), rfl, rfl, hR n rfl⟩) h (mapM_readable_eq_some_iff.2 rfl)
      -- The same members are known, and they have the same names.
      have known : List.Forall₂ (RewrittenMember R)
          (readable.filter fun m => names.contains m.1)
          (readable'.filter fun m => names.contains m.1) :=
        List.rel_filter (fun m m' hm => by simp only [hm.1]) hlike
      have same : (readable.filter fun m => names.contains m.1).map (·.1) =
          (readable'.filter fun m => names.contains m.1).map (·.1) := by
        rw [← List.forall₂_eq_eq_eq]
        exact List.rel_map (fun m m' hm => hm.1) known
      rw [members?, hreadable', Option.bind_eq_bind, Option.bind_some]
      dsimp only
      rw [if_pos (same ▸ nodup)]
      exact ⟨_, rfl, rfl, rfl, known⟩

namespace Members.Rewritten

variable {d : Decoder α} {Q : α → α → Prop} {m m' : Members}

theorem lookup (h : m.Rewritten R m') (name : String) :
    Option.Rel (R name) (m.named.lookup name) (m'.named.lookup name) := by
  have named := h.named
  generalize m.named = l at named ⊢
  generalize m'.named = l' at named ⊢
  induction named with
  | nil => exact .none
  | @cons a a' l l' hmember _ ih =>
    obtain ⟨hname, hR⟩ := hmember
    obtain ⟨n, v⟩ := a
    obtain ⟨n', v'⟩ := a'
    obtain rfl : n = n' := hname
    rw [List.lookup_cons, List.lookup_cons]
    by_cases heq : name = n
    · subst heq
      simpa only [beq_self_eq_true] using Option.Rel.some hR
    · simpa only [beq_eq_false_iff_ne.2 heq] using ih

theorem required (h : m.Rewritten R m') (hd : Follows d m.room (R name) Q) {a : α}
    (ha : m.required name d = some a) : ∃ a', m'.required name d = some a' ∧ Q a a' := by
  obtain ⟨v, hv, ha⟩ := Option.bind_eq_some_iff.1 ha
  have hlookup := h.lookup name
  rw [hv] at hlookup
  generalize hv' : m'.named.lookup name = v' at hlookup
  obtain hR | - := hlookup
  obtain ⟨a', ha', hQ⟩ := hd hR ha
  exact ⟨a', by rw [Members.required, hv', ← h.room]; exact ha', hQ⟩

theorem withDefault (h : m.Rewritten R m') (hd : Follows d m.room (R name) Q) {default : α}
    (hdefault : Q default default) {a : α} (ha : m.withDefault name default d = some a) :
    ∃ a', m'.withDefault name default d = some a' ∧ Q a a' := by
  have hlookup := h.lookup name
  rw [Members.withDefault] at ha ⊢
  rw [← h.room]
  generalize m.named.lookup name = o at hlookup ha
  generalize m'.named.lookup name = o' at hlookup
  cases hlookup with
  | none =>
    cases ha
    exact ⟨default, rfl, hdefault⟩
  | some hR => exact hd hR ha

end Members.Rewritten

/-- The decoder of a record follows if what puts it together does. -/
theorem Follows.record {build : Members → Option α} {Q : α → α → Prop}
    (h : ∀ m m' a, m.room = room - 1 → m.Rewritten R m' → build m = some a →
      ∃ a', build m' = some a' ∧ Q a a') :
    Follows (Decoder.record names build) room (Rewritten names R) Q := by
  intro v v' a hv ha
  obtain ⟨m, hm, ha⟩ := Option.bind_eq_some_iff.1 ha
  obtain ⟨m', hm', hmm'⟩ := members?_rewritten hv hm
  obtain ⟨a', ha', hQ⟩ := h m m' a (room_members? hm) hmm' ha
  exact ⟨a', Option.bind_eq_some_iff.2 ⟨m', hm', ha'⟩, hQ⟩

/-! ### What a record holds -/

/-- A record holds a value under a name. -/
inductive HasField (names : List String) (name : String) (v : Source) : Source → Prop where
  | object {members : List (Option String × Source)} (h : (some name, v) ∈ members) :
    HasField names name v (.object members)
  | array {items : List Source} (h : (name, v) ∈ names.zip items) :
    HasField names name v (.array items)

/-- A field is looked up as it stands in the record. -/
theorem lookup_eq_some_iff_hasField {w v : Source} {m : Members} (hm : members? names room w = some m)
    (nodup : names.Nodup) (hname : name ∈ names) :
    m.named.lookup name = some v ↔ HasField names name v w := by
  obtain ⟨n, rfl, ⟨items, rfl, -, rfl⟩ | ⟨readable, rfl, known, rfl⟩⟩ := members?_cases hm
  · rw [lookup_eq_some_iff_mem ((map_fst_zip_sublist names items).nodup nodup)]
    exact ⟨.array, fun | .array h => h⟩
  · rw [lookup_eq_some_iff_mem known, List.mem_filter, List.contains_iff_mem, and_iff_left hname]
    constructor
    · exact fun h => .object (List.mem_map_of_mem h)
    · rintro (⟨h⟩ | -)
      obtain ⟨⟨n, v'⟩, hmem, heq⟩ := List.mem_map.1 h
      cases heq
      exact hmem

end OrgBilling.Decoder
