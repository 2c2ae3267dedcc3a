import HeatStack.Proofs.DeclaredDefaults
import HeatStack.Proofs.NodeSpelling

/-! # Parts of the value of a text

What stands in a value, at any depth, and what every part of a value that was read from a text has: its
integers fit 64 bits, and its collections are not nested deeper than the reader admits.  Tags do not count
as nesting there. -/
set_option autoImplicit false
namespace HeatStack.Yaml
open HeatStack.Number HeatStack.Text

namespace Value

/-- The first value stands in the second, below so many collections and in no key. -/
inductive Part (w : Value) : Nat → Value → Prop
  | self : Part w 0 w
  | item {k : Nat} {v : Value} {items : List Value} : v ∈ items → Part w k v →
      Part w (k + 1) (.sequence items)
  | entry {k : Nat} {e : Value × Value} {entries : List (Value × Value)} : e ∈ entries →
      Part w k e.2 → Part w (k + 1) (.mapping entries)
  | tagged {k : Nat} {t : String} {v : Value} : Part w k v → Part w k (.tagged t v)

theorem Part.trans {u w v : Value} {j k : Nat} (inner : Part u j w) (outer : Part w k v) :
    Part u (j + k) v := by
  induction outer with
  | self => exact inner
  | item member _ ih => exact .item member ih
  | entry member _ ih => exact .entry member ih
  | tagged _ ih => exact .tagged ih

theorem Part.of_untagged {w v : Value} {k : Nat} (part : Part w k v.untagged) : Part w k v := by
  induction v using Value.untagged.induct with
  | case1 t v ih => exact .tagged (ih part)
  | case2 v plain =>
      rw [untagged] at part
      · exact part
      · exact plain

/-- What is read as an entry of a mapping stands in it. -/
theorem Part.of_named? {v w : Value} {named : List (String × Value)} {name : String}
    (read : v.named? = some named) (member : (name, w) ∈ named) : Part w 1 v := by
  refine Part.of_untagged ?_
  unfold named? at read
  split at read
  · next entries mapping =>
      obtain ⟨e, inside, given⟩ := traceable_option.mem_mapM _ _ read _ member
      obtain ⟨k, -, same⟩ := Option.map_eq_some_iff.mp given
      cases same
      rw [mapping]
      exact .entry inside .self
  · cases read
    cases member
  · cases read

theorem Part.of_fields? {v w : Value} {names : List String} {fields : List (String × Value)} {name : String}
    (read : v.fields? names = some fields) (found : fields.lookup name = some w) : Part w 1 v := by
  obtain ⟨named, all, known⟩ := Option.bind_eq_some_iff.mp read
  dsimp only at known
  split at known
  · cases known
    exact .of_named? all (List.mem_filter.mp (Table.mem_of_lookup_eq_some found)).1
  · cases known

/-! ## Nesting -/

mutual
/-- How many levels of nesting a value has, where each tag counts for so many. -/
def levels (tags : Nat) : Value → Nat
  | .sequence items => itemLevels tags items + 1
  | .mapping entries => entryLevels tags entries + 1
  | .tagged _ v => v.levels tags + tags
  | _ => 0

def itemLevels (tags : Nat) : List Value → Nat
  | [] => 0
  | v :: rest => max (v.levels tags) (itemLevels tags rest)

/-- Keys are not counted. -/
def entryLevels (tags : Nat) : List (Value × Value) → Nat
  | [] => 0
  | (_, v) :: rest => max (v.levels tags) (entryLevels tags rest)
end

theorem levels_le_itemLevels (tags : Nat) {v : Value} {items : List Value} (member : v ∈ items) :
    v.levels tags ≤ itemLevels tags items := by
  induction items with
  | nil => cases member
  | cons w rest ih =>
      rw [itemLevels]
      cases member with
      | head => exact Nat.le_max_left _ _
      | tail _ member => exact Nat.le_trans (ih member) (Nat.le_max_right _ _)

theorem itemLevels_le (tags room : Nat) {items : List Value} (each : ∀ v ∈ items, v.levels tags ≤ room) :
    itemLevels tags items ≤ room := by
  induction items with
  | nil => exact Nat.zero_le _
  | cons w rest ih =>
      obtain ⟨first, others⟩ := List.forall_mem_cons.mp each
      exact Nat.max_le.mpr ⟨first, ih others⟩

theorem entryLevels_eq (tags : Nat) (entries : List (Value × Value)) :
    entryLevels tags entries = itemLevels tags (entries.map Prod.snd) := by
  induction entries with
  | nil => rfl
  | cons e rest ih => rw [entryLevels, ih, List.map_cons, itemLevels]

theorem levels_le_entryLevels (tags : Nat) {e : Value × Value} {entries : List (Value × Value)}
    (member : e ∈ entries) : e.2.levels tags ≤ entryLevels tags entries := by
  rw [entryLevels_eq]
  exact levels_le_itemLevels tags (List.mem_map_of_mem member)

theorem entryLevels_le (tags room : Nat) {entries : List (Value × Value)}
    (each : ∀ e ∈ entries, e.2.levels tags ≤ room) : entryLevels tags entries ≤ room := by
  rw [entryLevels_eq]
  exact itemLevels_le tags room (List.forall_mem_map.mpr each)

/-- A part is nested less deeply, by the collections above it. -/
theorem Part.levels_le (tags : Nat) {w v : Value} {k : Nat} (part : Part w k v) :
    w.levels tags + k ≤ v.levels tags := by
  induction part with
  | self => exact Nat.le_refl _
  | item member _ ih =>
      have below := levels_le_itemLevels tags member
      rw [levels]
      omega
  | entry member _ ih =>
      have below := levels_le_entryLevels tags member
      rw [levels]
      omega
  | tagged _ ih =>
      rw [levels]
      omega

mutual
/-- Tags make no difference where there are none. -/
theorem levels_of_plain (tags : Nat) : ∀ v : Value, (∀ k t w, ¬ Part (.tagged t w) k v) →
    v.levels tags = v.levels 0
  | .null, _ => by rw [levels, levels] <;> nofun
  | .bool _, _ => by rw [levels, levels] <;> nofun
  | .number _, _ => by rw [levels, levels] <;> nofun
  | .string _, _ => by rw [levels, levels] <;> nofun
  | .sequence items, plain => by
      rw [levels, levels, itemLevels_of_plain tags items fun v member k t w part =>
        plain (k + 1) t w (.item member part)]
  | .mapping entries, plain => by
      rw [levels, levels, entryLevels_of_plain tags entries fun e member k t w part =>
        plain (k + 1) t w (.entry member part)]
  | .tagged t v, plain => absurd .self (plain 0 t v)

theorem itemLevels_of_plain (tags : Nat) : ∀ items : List Value,
    (∀ v ∈ items, ∀ k t w, ¬ Part (.tagged t w) k v) → itemLevels tags items = itemLevels 0 items
  | [], _ => rfl
  | v :: rest, plain => by
      obtain ⟨here, there⟩ := List.forall_mem_cons.mp plain
      rw [itemLevels, itemLevels, levels_of_plain tags v here, itemLevels_of_plain tags rest there]

theorem entryLevels_of_plain (tags : Nat) : ∀ entries : List (Value × Value),
    (∀ e ∈ entries, ∀ k t w, ¬ Part (.tagged t w) k e.2) → entryLevels tags entries = entryLevels 0 entries
  | [], _ => rfl
  | (_, v) :: rest, plain => by
      obtain ⟨here, there⟩ := List.forall_mem_cons.mp plain
      rw [entryLevels, entryLevels, levels_of_plain tags v here, entryLevels_of_plain tags rest there]
end

/-- Integers of at most 64 bits, and collections nested no deeper than this. -/
structure Fits (room : Nat) (v : Value) : Prop where
  words : ∀ k n, Part (.number (.integer n)) k v → Scalar.fitsWord n = true
  shallow : v.levels 0 ≤ room

theorem Fits.part {room k : Nat} {w v : Value} (fits : Fits (room + k) v) (part : Part w k v) : Fits room w where
  words _ n inner := fits.words _ n (inner.trans part)
  shallow := by
    have inside := part.levels_le 0
    have bound := fits.shallow
    omega

theorem Fits.tagged {room : Nat} {v : Value} (fits : Fits room v) (t : String) : Fits room (.tagged t v) where
  words k n part := by
    cases part with
    | tagged part => exact fits.words k n part
  shallow := fits.shallow

end Value

theorem Scalar.fits_integerValue? {cs : List Char} {v : Value}
    (read : Scalar.integerValue? cs = some (some v)) : v.Fits 0 := by
  unfold integerValue? at read
  split at read
  · cases read
  · split at read
    · next small =>
        cases read
        refine ⟨fun k n part => ?_, Nat.le_refl _⟩
        cases part
        exact small
    · split at read <;> cases read

/-- A scalar that is no integer fits. -/
theorem Value.OfScalar.fits {s : String} {v : Value} (scalar : v.OfScalar s)
    (other : ∀ n, v ≠ .number (.integer n)) : v.Fits 0 where
  words k n part := by
    cases scalar <;> cases part
    exact absurd rfl (other n)
  shallow := by cases scalar <;> exact Nat.le_refl _

theorem Scalar.fits_value? {tag : Option String} {plain : Bool} {s : String} {v : Value}
    (read : Scalar.value? tag plain s = some v) : v.Fits 0 := by
  by_cases integer : ∃ n, v = .number (.integer n)
  · obtain ⟨n, rfl⟩ := integer
    suffices given : integerValue? s.toList = some (some (.number (.integer n))) from fits_integerValue? given
    unfold value? at read
    split at read
    · unfold forced? at read
      split at read
      · obtain ⟨b, -, same⟩ := Option.map_eq_some_iff.mp read
        cases same
      split at read
      · exact Option.join_eq_some_iff.mp read
      split at read
      · obtain ⟨x, -, same⟩ := Option.map_eq_some_iff.mp read
        cases same
      split at read
      · split at read <;> cases read
      · cases read
    · split at read
      · unfold plain? at read
        split at read
        · cases read
        split at read
        · cases read
        split at read
        · next number => rw [number, read]
        split at read
        · cases read
        split at read <;> cases read
      · cases read
  · exact (ofScalar_value? read).fits (not_exists.mp integer)

/-! ## Reading -/

theorem Value.Fits.mono {room more : Nat} {v : Value} (fits : v.Fits room) (le : room ≤ more) :
    v.Fits more where
  words := fits.words
  shallow := Nat.le_trans fits.shallow le

section
variable {a : Admission} {m : Mark} {room left left' : Nat} {v w : Value}

theorem Admission.fits_tagged (fits : v.Fits room)
    (run : (a.tagged m v).run left = some (w, left')) : w.Fits room := by
  unfold tagged at run
  split at run
  · split at run <;> cases run
    exact fits.tagged _
  · cases run
    exact fits

theorem Admission.fits_scalar {plain : Bool} {text : String}
    (run : (a.scalar m plain text).run left = some (v, left')) : v.Fits 0 := by
  unfold scalar at run
  split at run
  · obtain ⟨⟨w, middle⟩, scalar, tagged⟩ := Option.bind_eq_some_iff.mp run
    obtain ⟨w', read, same⟩ := Option.bind_eq_some_iff.mp scalar
    cases same
    exact fits_tagged (Scalar.fits_value? read) tagged
  · obtain ⟨w', read, same⟩ := Option.bind_eq_some_iff.mp run
    cases same
    exact Scalar.fits_value? read

end

theorem Value.Fits.sequence {room : Nat} {items : List Value} (each : ∀ v ∈ items, v.Fits room) :
    (Value.sequence items).Fits (room + 1) where
  words k n part := by
    cases part with
    | item member part => exact (each _ member).words _ n part
  shallow := Nat.succ_le_succ (itemLevels_le 0 room fun v member => (each v member).shallow)

theorem Value.Fits.mapping {room : Nat} {entries : List (Value × Value)}
    (each : ∀ e ∈ entries, e.2.Fits room) : (Value.mapping entries).Fits (room + 1) where
  words k n part := by
    cases part with
    | entry member part => exact (each _ member).words _ n part
  shallow := Nat.succ_le_succ (entryLevels_le 0 room fun e member => (each e member).shallow)

/-- What is read with so much room fits it. -/
theorem Document.fits_read (d : Document) (a : Admission) : ∀ (room : Nat) (n : Node Nat) (v : Value)
    (left left' : Nat), (d.read a room n).run left = some (v, left') → v.Fits room := by
  intro room
  induction room with
  | zero =>
      intro n v left left' run
      obtain ⟨⟨m, middle⟩, -, run⟩ := Option.bind_eq_some_iff.mp run
      dsimp only at run
      split at run
      · exact Admission.fits_scalar run
      · cases run
  | succ room ih =>
      intro n v left left' run
      obtain ⟨⟨m, middle⟩, -, run⟩ := Option.bind_eq_some_iff.mp run
      dsimp only at run
      split at run
      · cases run
      · exact (Admission.fits_scalar run).mono (Nat.zero_le _)
      · obtain ⟨⟨vs, after⟩, items, tagged⟩ := Option.bind_eq_some_iff.mp run
        refine Admission.fits_tagged (.sequence fun w member => ?_) tagged
        obtain ⟨x, -, before, after, read⟩ := traceable_budget.mem_mapM _ _ ⟨_, _, items⟩ w member
        exact ih x w before after read
      · obtain ⟨⟨es, after⟩, entries, run⟩ := Option.bind_eq_some_iff.mp run
        dsimp only at run
        split at run
        · refine Admission.fits_tagged (.mapping fun e member => ?_) run
          obtain ⟨⟨x, y⟩, -, before, after, read⟩ :=
            traceable_budget.mem_mapM _ _ ⟨_, _, entries⟩ e member
          obtain ⟨⟨key, between⟩, -, read⟩ := Option.bind_eq_some_iff.mp read
          obtain ⟨⟨value, last⟩, second, same⟩ := Option.bind_eq_some_iff.mp read
          cases same
          exact ih y value between _ second
        · cases run

theorem Value.fits_parse? {source : String} {v : Value} (parsed : Value.parse? source = some v) :
    v.Fits nestingLimit := by
  obtain ⟨d, -, parse⟩ := Option.bind_eq_some_iff.mp parsed
  split at parse
  · cases parse
    refine ⟨fun k n part => ?_, Nat.zero_le _⟩
    cases part
  · obtain ⟨⟨w, left⟩, run, same⟩ := Option.map_eq_some_iff.mp parse
    cases same
    exact d.fits_read _ _ _ _ _ _ run

end HeatStack.Yaml

namespace HeatStack.Template
open HeatStack.Yaml

theorem exists_of_optional? {α : Type} {fields : List (String × Value)} {name : String}
    {read : Value → Option α} {a : α} (taken : Value.optional? fields name read = some (some a)) :
    ∃ w, fields.lookup name = some w ∧ read w = some a := by
  unfold Value.optional? at taken
  split at taken
  · cases taken
  · cases taken
  · next w _ found =>
    obtain ⟨b, given, same⟩ := Option.map_eq_some_iff.mp taken
    cases same
    exact ⟨w, found, given⟩

/-- A default stands below the document, its section and its entry. -/
theorem part_of_declares {source name : String} {v : Value} (declared : Declares source name v) :
    ∃ root, Value.parse? source = some root ∧ v.Part 3 root := by
  obtain ⟨d, entry, fields, decoded, ⟨before, after, split, -⟩, known, found⟩ := declared
  have inEntry := Value.Part.of_fields? known found
  unfold Document.ofText at decoded
  split at decoded
  · cases decoded
  · cases decoded
    cases before <;> cases split
  · next entries parsed =>
    split at decoded
    · next d' sections =>
      cases decoded
      refine ⟨_, parsed, ?_⟩
      obtain ⟨top, topKnown, sections⟩ := Option.bind_eq_some_iff.mp sections
      obtain ⟨parameters, first, sections⟩ := Option.bind_eq_some_iff.mp sections
      obtain ⟨outputs, second, sections⟩ := Option.bind_eq_some_iff.mp sections
      obtain ⟨tags, third, same⟩ := Option.bind_eq_some_iff.mp sections
      cases same
      cases parameters with
      | none => cases before <;> cases split
      | some named =>
          obtain ⟨w, there, read⟩ := exists_of_optional? first
          have member : (name, entry) ∈ named := by
            rw [Option.getD_some] at split
            rw [split]
            exact List.mem_append_right _ List.mem_cons_self
          have inSection := Value.Part.of_named? read member
          exact inEntry.trans (inSection.trans (Value.Part.of_fields? topKnown there))
    · cases decoded
  · cases decoded

theorem fits_of_declares {source name : String} {v : Value} (declared : Declares source name v) :
    v.Fits 125 := by
  obtain ⟨root, parsed, part⟩ := part_of_declares declared
  have fits : root.Fits (125 + 3) := Value.fits_parse? parsed
  exact fits.part part

end HeatStack.Template
