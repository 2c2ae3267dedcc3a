import HeatStack.Table

/-! # What a table binds

A table's entries are in the order of their names, so an entry is what a lookup finds, and a list
that is in order already becomes the table of its entries.  `get?_ofList` says what stays of several
entries with one name. -/
set_option autoImplicit false
namespace HeatStack.Table
variable {α β : Type}

/-- The first item for which `Q` holds, all before it having `P`, is the head or lies behind one that has `P`. -/
theorem exists_first_cons_iff {P Q : α → Prop} {a : α} {l : List α} :
    (∃ before x after, a :: l = before ++ x :: after ∧ (∀ y ∈ before, P y) ∧ Q x) ↔
      Q a ∨ P a ∧ ∃ before x after, l = before ++ x :: after ∧ (∀ y ∈ before, P y) ∧ Q x := by
  constructor
  · rintro ⟨before, x, after, split, earlier, here⟩
    cases before with
    | nil =>
        cases split
        exact .inl here
    | cons first before =>
        cases split
        obtain ⟨head, earlier⟩ := List.forall_mem_cons.mp earlier
        exact .inr ⟨head, before, x, after, rfl, earlier, here⟩
  · rintro (here | ⟨head, before, x, after, rfl, earlier, here⟩)
    · exact ⟨[], a, l, rfl, List.forall_mem_nil _, here⟩
    · exact ⟨a :: before, x, after, rfl, List.forall_mem_cons.mpr ⟨head, earlier⟩, here⟩

/-- In a list that is in order, what stands before an item is what comes before it. -/
theorem mem_before_iff {r : α → α → Prop} (asymm : ∀ a b, r a b → ¬ r b a) {before after : List α} {x y : α}
    (sorted : (before ++ x :: after).Pairwise r) : y ∈ before ↔ y ∈ before ++ x :: after ∧ r y x := by
  obtain ⟨-, behind, across⟩ := List.pairwise_append.mp sorted
  constructor
  · intro earlier
    exact ⟨List.mem_append_left _ earlier, across y earlier x (List.mem_cons_self ..)⟩
  · rintro ⟨member, smaller⟩
    obtain earlier | later := List.mem_append.mp member
    · exact earlier
    · obtain rfl | later := List.mem_cons.mp later
      · exact absurd smaller (asymm y y smaller)
      · exact absurd smaller (asymm x y ((List.pairwise_cons.mp behind).1 y later))

theorem entries_inj {s t : Table α} (h : s.entries = t.entries) : s = t := by
  cases s
  cases t
  cases h
  rfl

theorem lookup_eq_some_of_mem (name : String) (value : α) : ∀ l : List (String × α),
    l.Pairwise (fun a b => a.1 < b.1) → (name, value) ∈ l → l.lookup name = some value := by
  intro l
  induction l with
  | nil => intro _ member; cases member
  | cons head rest ih =>
      intro sorted member
      obtain ⟨k, v⟩ := head
      obtain ⟨above, tail⟩ := List.pairwise_cons.mp sorted
      rw [lookup_cons_ite]
      rcases List.mem_cons.mp member with same | later
      · cases same
        rw [if_pos rfl]
      · have smaller : k < name := above (name, value) later
        have different : name ≠ k := fun e => String.lt_irrefl k (e ▸ smaller)
        rw [if_neg different]
        exact ih tail later

theorem mem_of_lookup_eq_some {κ : Type} [BEq κ] [LawfulBEq κ] {name : κ} {value : α}
    {l : List (κ × α)} (found : l.lookup name = some value) : (name, value) ∈ l := by
  obtain ⟨before, after, rfl, -⟩ := List.lookup_eq_some_iff.mp found
  exact List.mem_append_right _ (List.mem_cons_self ..)

theorem get?_eq_some_iff (t : Table α) (name : String) (value : α) :
    t.get? name = some value ↔ (name, value) ∈ t.entries :=
  ⟨mem_of_lookup_eq_some, lookup_eq_some_of_mem name value t.entries t.sorted⟩

theorem mem_keys_iff (t : Table α) (name : String) :
    name ∈ t.keys ↔ ∃ value, t.get? name = some value := by
  simp only [keys, List.mem_map, get?_eq_some_iff]
  constructor
  · rintro ⟨⟨k, v⟩, member, rfl⟩
    exact ⟨v, member⟩
  · rintro ⟨v, member⟩
    exact ⟨(name, v), member, rfl⟩

theorem get?_eq_none_iff (t : Table α) (name : String) : t.get? name = none ↔ name ∉ t.keys := by
  rw [mem_keys_iff, Option.eq_none_iff_forall_ne_some]
  exact ⟨fun h ⟨v, e⟩ => h v e, fun h v e => h ⟨v, e⟩⟩

theorem sorted_keys (t : Table α) : t.keys.Pairwise (fun a b => a < b) := by
  rw [keys, List.pairwise_map]
  exact t.sorted

/-- A table is what its lookups find. -/
theorem ext_get? (s t : Table α) (same : ∀ name, s.get? name = t.get? name) : s = t := by
  apply entries_inj
  have distinct : ∀ u : Table α, u.entries.Nodup := by
    intro u
    refine List.Pairwise.imp ?_ u.sorted
    rintro a b smaller rfl
    exact String.lt_irrefl _ smaller
  have members : ∀ e, e ∈ s.entries ↔ e ∈ t.entries := by
    intro e
    rw [← s.get?_eq_some_iff e.1 e.2, ← t.get?_eq_some_iff e.1 e.2, same]
  have perm := (List.perm_ext_iff_of_nodup (distinct s) (distinct t)).mpr members
  refine List.Perm.eq_of_pairwise (fun a b _ _ below above => ?_) s.sorted t.sorted perm
  exact absurd (String.lt_trans below above) (String.lt_irrefl _)

theorem lookup_eq_some_iff_of_nodup {l : List (String × α)} (distinct : (l.map Prod.fst).Nodup)
    (name : String) (value : α) : l.lookup name = some value ↔ (name, value) ∈ l := by
  refine ⟨mem_of_lookup_eq_some, fun member => ?_⟩
  induction l with
  | nil => cases member
  | cons head rest ih =>
      obtain ⟨k, v⟩ := head
      obtain ⟨fresh, distinct⟩ := List.nodup_cons.mp distinct
      rw [lookup_cons_ite]
      rcases List.mem_cons.mp member with same | later
      · cases same
        rw [if_pos rfl]
      · have different : name ≠ k := fun same =>
          fresh (same ▸ List.mem_map.mpr ⟨(name, value), later, rfl⟩)
        rw [if_neg different]
        exact ih distinct later

/-! ## Changed tables -/

@[simp] theorem keys_map (f : String → α → β) (t : Table α) : (t.map f).keys = t.keys := by
  simp [keys, map, Function.comp_def]

theorem lookup_map (f : String → α → β) (name : String) : ∀ l : List (String × α),
    (l.map fun e => (e.1, f e.1 e.2)).lookup name = (l.lookup name).map (f name) := by
  intro l
  induction l with
  | nil => rfl
  | cons head rest ih =>
      obtain ⟨k, v⟩ := head
      rw [List.map_cons, lookup_cons_ite, lookup_cons_ite, ih]
      by_cases same : name = k
      · rw [if_pos same, if_pos same, same]
        rfl
      · rw [if_neg same, if_neg same]

theorem get?_map (f : String → α → β) (t : Table α) (name : String) :
    (t.map f).get? name = (t.get? name).map (f name) :=
  lookup_map f name t.entries

/-! ## Tables of lists -/

theorem place_last (name : String) (value : α) : ∀ l : List (String × α),
    (∀ e ∈ l, e.1 < name) → place name value l = l ++ [(name, value)] := by
  intro l
  induction l with
  | nil => intro _; rfl
  | cons head rest ih =>
      intro below
      obtain ⟨k, v⟩ := head
      have smaller : k < name := below (k, v) (List.mem_cons_self ..)
      have notBelow : ¬ name < k := fun h => String.lt_irrefl k (String.lt_trans smaller h)
      have different : name ≠ k := fun e => String.lt_irrefl k (e ▸ smaller)
      rw [place, if_neg notBelow, if_neg different,
        ih fun e member => below e (List.mem_cons_of_mem _ member)]
      rfl

theorem entries_foldl_insert : ∀ (l : List (String × α)) (t : Table α),
    (t.entries ++ l).Pairwise (fun a b => a.1 < b.1) →
      (l.foldl (fun t e => t.insert e.1 e.2) t).entries = t.entries ++ l := by
  intro l
  induction l with
  | nil => intro t _; simp
  | cons head rest ih =>
      intro t sorted
      have placed : (t.insert head.1 head.2).entries = t.entries ++ [head] :=
        place_last head.1 head.2 t.entries fun e member =>
          (List.pairwise_append.mp sorted).2.2 e member head (List.mem_cons_self ..)
      rw [List.foldl_cons, ih, placed, List.append_assoc, List.singleton_append]
      rw [placed, List.append_assoc, List.singleton_append]
      exact sorted

/-- A list in the order of its names is the table of its entries. -/
theorem entries_ofList (l : List (String × α)) (sorted : l.Pairwise (fun a b => a.1 < b.1)) :
    (ofList l).entries = l := by
  rw [ofList, entries_foldl_insert l empty (by simpa [empty] using sorted)]
  rfl

theorem get?_foldl_insert (name : String) : ∀ (l : List (String × α)) (t : Table α),
    (l.foldl (fun t e => t.insert e.1 e.2) t).get? name =
      (l.reverse.lookup name).or (t.get? name) := by
  intro l
  induction l with
  | nil => intro t; simp
  | cons head rest ih =>
      intro t
      obtain ⟨k, v⟩ := head
      rw [List.foldl_cons, ih, get?_insert, List.reverse_cons, List.lookup_append, Option.or_assoc,
        lookup_cons_ite]
      by_cases same : name = k
      · rw [if_pos same, if_pos same]
        rfl
      · rw [if_neg same, if_neg same]
        rfl

/-- Of several entries with one name the last stays. -/
theorem get?_ofList (name : String) (l : List (String × α)) :
    (ofList l).get? name = l.reverse.lookup name := by
  rw [ofList, get?_foldl_insert]
  exact Option.or_none ..

/-- The order in which the entries of a table are put in makes no difference. -/
theorem ofList_of_perm (t : Table α) {l : List (String × α)} (perm : l.Perm t.entries) : ofList l = t := by
  have distinct : (l.reverse.map Prod.fst).Nodup := by
    have names : t.keys.Nodup := by
      refine List.Pairwise.imp ?_ t.sorted_keys
      rintro a b smaller rfl
      exact String.lt_irrefl _ smaller
    exact ((l.reverse_perm.trans perm).map Prod.fst).nodup_iff.mpr names
  apply ext_get?
  intro name
  rw [get?_ofList]
  apply Option.ext
  intro value
  rw [lookup_eq_some_iff_of_nodup distinct, List.mem_reverse, perm.mem_iff, get?_eq_some_iff]

end HeatStack.Table
