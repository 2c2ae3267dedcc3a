import HeatStack.Proofs.JsonText
import HeatStack.Proofs.ReadableNumbers
import HeatStack.Proofs.TableLookup
import HeatStack.Template.Record

/-! # Records read back

The record of a bundle is read as the bundle itself, up to the bounds of its ranges: each of those
comes back as the number that is read of its text, or as none (`Bundle.ofText?_text`).  So a bundle
is read back unchanged just where every bound is (`Bundle.round_trip`).  What a record says of an
absent text, a member left out, is undone by the default that stands for it. -/
set_option autoImplicit false

namespace HeatStack.Json
open HeatStack.Number

/-! ## Numbers -/

/-- What is read, where null may stand, of the text that a number is written as. -/
def reread? (x : Binary64) : Option (Option Binary64) :=
  (Syntax.parse? (Value.number (.binary x)).indented).bind (Reading.optional? Reading.float?)

/-- The number that is read back, if any: null is read as none. -/
def reread (x : Binary64) : Option Binary64 := (reread? x).join

theorem reread?_eq (x : Binary64) :
    reread? x = Reading.optional? Reading.float? (.ofNumeric (.binary x)) := by
  unfold reread?
  rw [Syntax.parse?_indented]
  rfl

/-- Every number is written as something that can be read. -/
theorem reread?_eq_some (x : Binary64) : reread? x = some (reread x) := by
  have readable : (reread? x).isSome = true := by
    rw [reread?_eq, Syntax.ofNumeric]
    split
    · next finite =>
      obtain ⟨y, read⟩ := Option.isSome_iff_exists.mp (Numeral.binary?_ofDecimal finite)
      simp only [Reading.optional?, Reading.float?, Numeral.value?_ofDecimal, read]
      rfl
    · rfl
  obtain ⟨read, found⟩ := Option.isSome_iff_exists.mp readable
  rw [reread, found]
  rfl

/-- The number is read back as it was written. -/
def ReadsBack (x : Binary64) : Prop := reread? x = some (some x)

theorem readsBack_iff (x : Binary64) : ReadsBack x ↔ reread x = some x := by
  rw [ReadsBack, reread?_eq_some, Option.some_inj]

/-- What is not finite is written as null, which is no number. -/
theorem ReadsBack.finite {x : Binary64} (same : ReadsBack x) : x.isFinite = true := by
  by_contra infinite
  rw [ReadsBack, reread?_eq, Syntax.ofNumeric, if_neg infinite] at same
  cases same

-- 0.10000325520833293 comes back as the number next below: the quotient by `10 ^ 17` is rounded twice.
example : reread? ⟨4591870414629438285⟩ = some (some ⟨4591870414629438284⟩) := by
  rw [reread?_eq]
  decide +kernel

namespace Reading

theorem mapM_of_each {α β γ : Type} {f : β → Option γ} {h : α → β} (g : α → γ) {l : List α}
    (each : ∀ a ∈ l, f (h a) = some (g a)) : (l.map h).mapM f = some (l.map g) := by
  induction l with
  | nil => rfl
  | cons a l ih =>
      obtain ⟨first, others⟩ := List.forall_mem_cons.mp each
      rw [List.map_cons, List.mapM_cons, first, ih others]
      rfl

/-- The members of an object as its reading sees them. -/
def fieldsOf (members : List (String × Value)) : List (String × Syntax) :=
  members.map fun e => (e.1, e.2.toSyntax)

theorem names_fieldsOf (members : List (String × Value)) :
    (fieldsOf members).map Prod.fst = members.map Prod.fst := by
  rw [fieldsOf, List.map_map]
  rfl

/-- The fields of an object that is written with distinct names: its known members. -/
theorem fields?_known (names : List String) {members : List (String × Value)}
    (distinct : (members.map Prod.fst).Nodup) :
    fields? names (Value.object members).toSyntax =
      some (fieldsOf (members.filter fun e => names.contains e.1)) := by
  have known : (fieldsOf members).filter (fun e => names.contains e.1) =
      fieldsOf (members.filter fun e => names.contains e.1) := List.filter_map
  have kept : ((members.filter fun e => names.contains e.1).map Prod.fst).Nodup :=
    (List.filter_sublist.map _).nodup distinct
  rw [Value.toSyntax, fields?, syntaxOfMembers_eq]
  refine (congrArg (Option.bind · _)
    (mapM_of_each (fun e : String × Value => (e.1, e.2.toSyntax)) fun e _ => ?_)).trans ?_
  · rfl
  · change (if (((fieldsOf members).filter fun e => names.contains e.1).map Prod.fst).Nodup then
      some ((fieldsOf members).filter fun e => names.contains e.1) else none) = _
    rw [known, names_fieldsOf, if_pos kept]

/-- The fields of a record that is written with distinct names, all of them known. -/
theorem fields?_object {names : List String} {members : List (String × Value)}
    (known : (members.map Prod.fst).Sublist names) (distinct : names.Nodup) :
    fields? names (Value.object members).toSyntax = some (fieldsOf members) := by
  have all : members.filter (fun e => names.contains e.1) = members := by
    rw [List.filter_eq_self]
    intro e member
    rw [List.contains_iff_mem]
    exact known.subset (List.mem_map_of_mem member)
  rw [fields?_known names (known.nodup distinct), all]

theorem items?_array {α β : Type} {read : Syntax → Option β} {write : α → Value} {g : α → β}
    {l : List α} (each : ∀ a ∈ l, read (write a).toSyntax = some (g a)) :
    items? read (Value.array (l.map write)).toSyntax = some (l.map g) := by
  rw [Value.toSyntax, syntaxOfItems_eq, items?, List.map_map]
  exact mapM_of_each g each

theorem table?_object {α β : Type} {read : Syntax → Option β} {write : α → Value} {g : α → β}
    {t : Table α} (each : ∀ a ∈ t.values, read (write a).toSyntax = some (g a)) :
    table? read (Value.object (t.map fun _ a => write a).entries).toSyntax =
      some (t.map fun _ a => g a) := by
  rw [Value.toSyntax, table?, syntaxOfMembers_eq, Table.map, List.map_map]
  refine (congrArg (Option.bind · _)
    (mapM_of_each (fun e : String × α => (e.1, g e.2)) fun e member => ?_)).trans ?_
  · simp only [Function.comp_apply, each e.2 (List.mem_map_of_mem member)]
    rfl
  · refine congrArg some (Table.entries_inj ?_)
    exact Table.entries_ofList _ (t.map fun _ a => g a).sorted

theorem items?_strings (l : List String) : items? text? (Value.strings l).toSyntax = some l := by
  have each : ∀ s ∈ l, text? (Value.string s).toSyntax = some s := fun _ _ => rfl
  rw [Value.strings, items?_array each, List.map_id']

theorem lookup_fieldsOf (name : String) (members : List (String × Value)) :
    (fieldsOf members).lookup name = (members.lookup name).map Value.toSyntax :=
  Table.lookup_map (fun _ (v : Value) => v.toSyntax) name members

section Members
variable {α : Type} {members : List (String × Value)} {name : String} {v : Value}

theorem lookup_member (distinct : (members.map Prod.fst).Nodup) (member : (name, v) ∈ members) :
    (fieldsOf members).lookup name = some v.toSyntax := by
  rw [lookup_fieldsOf, (Table.lookup_eq_some_iff_of_nodup distinct name v).mpr member]
  rfl

theorem required?_member (read : Syntax → Option α) (distinct : (members.map Prod.fst).Nodup)
    (member : (name, v) ∈ members) :
    required? (fieldsOf members) name read = read v.toSyntax := by
  rw [required?, lookup_member distinct member]
  rfl

theorem defaulted?_member (default : α) (read : Syntax → Option α)
    (distinct : (members.map Prod.fst).Nodup) (member : (name, v) ∈ members) :
    defaulted? (fieldsOf members) name default read = read v.toSyntax := by
  rw [defaulted?, lookup_member distinct member]

theorem required?_known {names : List String} (read : Syntax → Option α)
    (distinct : (members.map Prod.fst).Nodup) (member : (name, v) ∈ members) (known : name ∈ names) :
    required? (fieldsOf (members.filter fun e => names.contains e.1)) name read = read v.toSyntax :=
  required?_member read ((List.filter_sublist.map _).nodup distinct)
    (List.mem_filter.mpr ⟨member, List.contains_iff_mem.mpr known⟩)

/-- A text that was left out is read as absent. -/
theorem defaulted?_text {s : Option String} (found : members.lookup name = s.map Value.string) :
    defaulted? (fieldsOf members) name none (optional? text?) = some s := by
  rw [defaulted?, lookup_fieldsOf, found]
  cases s with
  | none => rfl
  | some s => rfl

end Members

end Reading

/-! ## Values of records -/

namespace Syntax

/-- An object can be buffered where its members can, one level further in. -/
theorem value?_object {room : Nat} {members : List (String × Value)}
    (each : ∀ e ∈ members, (e.2.toSyntax.value? room).isSome = true) :
    ((Value.object members).toSyntax.value? (room + 1)).isSome = true := by
  have buffered : (memberValues? room (syntaxOfMembers members)).isSome = true := by
    induction members with
    | nil => rfl
    | cons e rest ih =>
        obtain ⟨first, others⟩ := List.forall_mem_cons.mp each
        obtain ⟨v, value⟩ := Option.isSome_iff_exists.mp first
        obtain ⟨vs, values⟩ := Option.isSome_iff_exists.mp (ih others)
        obtain ⟨k, written⟩ := e
        simp only [syntaxOfMembers, memberValues?, value, values]
        rfl
  rw [Value.toSyntax, value?, if_neg (Nat.succ_ne_zero room), Option.isSome_map]
  exact buffered

theorem value?_strings (room : Nat) (items : List String) :
    ((Value.strings items).toSyntax.value? (room + 1)).isSome = true := by
  have buffered : (itemValues? room (syntaxOfItems (items.map Value.string))).isSome = true := by
    induction items with
    | nil => rfl
    | cons s rest ih =>
        obtain ⟨vs, values⟩ := Option.isSome_iff_exists.mp ih
        simp only [List.map_cons, syntaxOfItems, itemValues?, Value.toSyntax, value?, values]
        rfl
  rw [Value.strings, Value.toSyntax, value?, if_neg (Nat.succ_ne_zero room), Option.isSome_map]
  exact buffered

theorem value?_binary (room : Nat) (x : Binary64) :
    ((Value.number (.binary x)).toSyntax.value? room).isSome = true := by
  rw [Value.toSyntax, ofNumeric]
  split
  · next finite =>
    obtain ⟨y, read⟩ := Option.isSome_iff_exists.mp (Numeral.binary?_ofDecimal finite)
    rw [value?, Numeral.value?_ofDecimal, read]
    rfl
  · rw [value?]
    rfl

end Syntax

theorem Numeral.value?_ofNat {n : Nat} (small : n < Nat.pow 2 64) :
    (Numeral.ofInt n).value? = some (.integer n) := by
  have whole : Text.decimal (Nat.toDigits 10 n) = n := Numeral.decimal_toDigits n
  have positive : ¬ (n : Int) < 0 := by omega
  simp [Numeral.value?, Numeral.ofInt, whole, small, positive]

theorem Syntax.value?_nat (room : Nat) {n : Nat} (small : n < Nat.pow 2 64) :
    ((Value.nat n).toSyntax.value? room).isSome = true := by
  rw [Value.nat, Value.toSyntax, Syntax.ofNumeric, Syntax.value?, Numeral.value?_ofNat small]
  rfl

/-- Nothing is lost from an object that has no member of the name. -/
theorem filter_other {name : String} {members : List (String × Value)}
    (other : ∀ e ∈ members, e.1 ≠ name) :
    (syntaxOfMembers members).filter (fun e => e.1 != some name) = syntaxOfMembers members := by
  rw [syntaxOfMembers_eq, List.filter_eq_self]
  intro e member
  obtain ⟨m, written, rfl⟩ := List.mem_map.mp member
  simpa using other m written

theorem Reading.natural?_nat {limit n : Nat} (small : n < Nat.pow 2 64) (below : n < limit) :
    natural? limit (Value.nat n).toSyntax = some n := by
  rw [Value.nat, Value.toSyntax, Syntax.ofNumeric, natural?, Numeral.value?_ofNat small]
  simp [Numeric.toNat?, below]

end HeatStack.Json

namespace HeatStack.Template
open HeatStack.Number HeatStack.Json HeatStack.Json.Reading

/-! ## Members of records -/

theorem lookup_textMember (name other : String) (s : Option String) :
    (textMember name s).lookup other =
      if other = name then s.map Value.string else none := by
  cases s with
  | none => exact (ite_self _).symm
  | some s => exact Table.lookup_cons_ite other name (Value.string s) []

theorem names_textMember (name : String) (s : Option String) :
    ((textMember name s).map Prod.fst).Sublist [name] := by
  cases s with
  | none => exact List.nil_sublist _
  | some s => exact List.Sublist.refl _

/-- The kind is told from the other members of a constraint. -/
theorem splitKind?_object (kind : String) {members : List (String × Json.Value)}
    (other : ∀ e ∈ members, e.1 ≠ "kind") :
    splitKind? (Value.object (("kind", .string kind) :: members)).toSyntax =
      some (kind, (Value.object members).toSyntax) := by
  have none_more : (syntaxOfMembers members).filter (fun e => e.1 == some "kind") = [] := by
    rw [syntaxOfMembers_eq, List.filter_eq_nil_iff]
    intro e member
    obtain ⟨m, written, rfl⟩ := List.mem_map.mp member
    simpa using other m written
  simp [Value.toSyntax, syntaxOfMembers, splitKind?, none_more, filter_other other]

/-! ## Constraints -/

namespace Constraint

def bounds : Constraint → List Binary64
  | .range min max _ => min.toList ++ max.toList
  | _ => []

/-- The constraint with the bounds of a range as they are read back. -/
def reloaded : Constraint → Constraint
  | .range min max description => .range (min.bind reread) (max.bind reread) description
  | c => c

def boundRecord (x : Option Binary64) : Json.Value :=
  (x.map fun x => .number (.binary x)).getD .null

def lengthRecord (n : Option UInt64) : Json.Value := (n.map fun n => .nat n.toNat).getD .null

theorem optional?_boundRecord (x : Option Binary64) :
    optional? float? (boundRecord x).toSyntax = some (x.bind reread) := by
  cases x with
  | none => rfl
  | some x =>
      rw [Option.bind_some, ← reread?_eq_some, reread?_eq]
      rfl

def lengthBound? : Syntax → Option (Option UInt64) :=
  optional? fun v => (natural? (Nat.pow 2 64) v).map UInt64.ofNat

theorem lengthBound?_lengthRecord (n : Option UInt64) :
    lengthBound? (lengthRecord n).toSyntax = some n := by
  cases n with
  | none => rfl
  | some n =>
      have read := natural?_nat n.toNat_lt n.toNat_lt
      change ((natural? _ (Value.nat n.toNat).toSyntax).map UInt64.ofNat).map some = _
      rw [read, Option.map_some, Option.map_some, UInt64.ofNat_toNat]

theorem value?_boundRecord (room : Nat) (x : Option Binary64) :
    ((boundRecord x).toSyntax.value? room).isSome = true := by
  cases x with
  | none =>
      rw [boundRecord, Option.map_none, Option.getD_none, Value.toSyntax, Syntax.value?]
      rfl
  | some x => exact Syntax.value?_binary room x

theorem value?_lengthRecord (room : Nat) (n : Option UInt64) :
    ((lengthRecord n).toSyntax.value? room).isSome = true := by
  cases n with
  | none =>
      rw [lengthRecord, Option.map_none, Option.getD_none, Value.toSyntax, Syntax.value?]
      rfl
  | some n => exact Syntax.value?_nat room n.toNat_lt

/-- The members that a constraint has beside its kind and its description. -/
def rule : Constraint → List (String × Json.Value)
  | .allowedValues values _ => [("values", .strings values)]
  | .range min max _ => [("min", boundRecord min), ("max", boundRecord max)]
  | .length min max _ => [("min", lengthRecord min), ("max", lengthRecord max)]
  | .allowedPattern pattern _ => [("pattern", .string pattern)]
  | .custom name _ => [("name", .string name)]

/-- What stands behind the kind. -/
def members (c : Constraint) : List (String × Json.Value) :=
  c.rule ++ [("description", .string c.description)]

theorem record_eq (c : Constraint) :
    c.record = .object (("kind", .string c.kind.name) :: c.members) := by
  cases c <;> rfl

theorem value?_members (room : Nat) (c : Constraint) :
    ∀ e ∈ c.members, (e.2.toSyntax.value? (room + 1)).isSome = true := by
  have text (s : String) : ((Value.string s).toSyntax.value? (room + 1)).isSome = true := by
    rw [Value.toSyntax, Syntax.value?]
    rfl
  have described : ∀ e ∈ [("description", Value.string c.description)],
      (e.2.toSyntax.value? (room + 1)).isSome = true := List.forall_mem_singleton.mpr (text _)
  cases c with
  | allowedValues values _ =>
      exact List.forall_mem_cons.mpr ⟨Syntax.value?_strings room values, described⟩
  | range min max _ =>
      exact List.forall_mem_cons.mpr ⟨value?_boundRecord _ min,
        List.forall_mem_cons.mpr ⟨value?_boundRecord _ max, described⟩⟩
  | length min max _ =>
      exact List.forall_mem_cons.mpr ⟨value?_lengthRecord _ min,
        List.forall_mem_cons.mpr ⟨value?_lengthRecord _ max, described⟩⟩
  | allowedPattern pattern _ => exact List.forall_mem_cons.mpr ⟨text pattern, described⟩
  | custom name _ => exact List.forall_mem_cons.mpr ⟨text name, described⟩

/-- The record of a constraint can be buffered with one level to spare for its values. -/
theorem value?_record (room : Nat) (c : Constraint) :
    (c.record.toSyntax.value? (room + 2)).isSome = true := by
  rw [record_eq]
  refine Syntax.value?_object (List.forall_mem_cons.mpr ⟨?_, value?_members room c⟩)
  rw [Value.toSyntax, Syntax.value?]
  rfl

theorem splitKind?_record (c : Constraint) :
    splitKind? c.record.toSyntax = some (c.kind.name, (Value.object c.members).toSyntax) := by
  rw [record_eq]
  have other : "kind" ∉ c.members.map Prod.fst := by cases c <;> simp [members, rule]
  exact splitKind?_object _ fun e member same => other (same ▸ List.mem_map_of_mem member)

theorem ofRecord?_record (room : Nat) (c : Constraint) :
    ofRecord? (room + 2) c.record.toSyntax = some c.reloaded := by
  obtain ⟨v, buffered⟩ := Option.isSome_iff_exists.mp (value?_record room c)
  have distinct : (c.members.map Prod.fst).Nodup := by cases c <;> simp [members, rule]
  have fields := fields?_object (List.Sublist.refl _) distinct
  have described := required?_member text? distinct
    (List.mem_append_right c.rule (List.mem_singleton.mpr rfl))
  rw [ofRecord?, buffered, splitKind?_record]
  simp only [Option.bind_eq_bind, Option.bind_some]
  cases c with
  | allowedValues values description =>
      have read := required?_member (items? text?) distinct (List.mem_cons_self ..)
      rw [items?_strings] at read
      refine (congrArg (Option.bind · _) fields).trans ?_
      rw [Option.bind_some, read, described]
      rfl
  | range min max description =>
      have low := defaulted?_member none (optional? float?) distinct (List.mem_cons_self ..)
      have high := defaulted?_member none (optional? float?) distinct
        (List.mem_cons_of_mem _ (List.mem_cons_self ..))
      rw [optional?_boundRecord] at low high
      refine (congrArg (Option.bind · _) fields).trans ?_
      rw [Option.bind_some, low, Option.bind_some, high, Option.bind_some, described]
      rfl
  | length min max description =>
      have low := defaulted?_member none lengthBound? distinct (List.mem_cons_self ..)
      have high := defaulted?_member none lengthBound? distinct
        (List.mem_cons_of_mem _ (List.mem_cons_self ..))
      rw [lengthBound?_lengthRecord] at low high
      refine (congrArg (Option.bind · _) fields).trans ?_
      simp only [Option.bind_some]
      change ((defaulted? _ "min" none lengthBound?).bind _) = _
      rw [low, Option.bind_some]
      change ((defaulted? _ "max" none lengthBound?).bind _) = _
      rw [high, Option.bind_some, described]
      rfl
  | allowedPattern pattern description =>
      have read := required?_member text? distinct (List.mem_cons_self ..)
      refine (congrArg (Option.bind · _) fields).trans ?_
      rw [Option.bind_some, read, described]
      rfl
  | custom name description =>
      have read := required?_member text? distinct (List.mem_cons_self ..)
      refine (congrArg (Option.bind · _) fields).trans ?_
      rw [Option.bind_some, read, described]
      rfl

theorem bind_reread_eq_self (x : Option Binary64) :
    x.bind reread = x ↔ ∀ y ∈ x.toList, ReadsBack y := by
  cases x with
  | none => simp
  | some x => simp [readsBack_iff]

theorem reloaded_eq_self (c : Constraint) : c.reloaded = c ↔ ∀ x ∈ c.bounds, ReadsBack x := by
  cases c with
  | range min max description =>
      simp only [reloaded, bounds, range.injEq, and_true, bind_reread_eq_self, List.forall_mem_append]
  | _ => simp [reloaded, bounds]

end Constraint

/-! ## Parameters and outputs -/

theorem word?_name (type : ValueType) :
    word? ValueType.ofName? (Value.string type.name).toSyntax = some type := by
  cases type <;> decide

theorem map_eq_self {α : Type} (f : α → α) (l : List α) : l.map f = l ↔ ∀ a ∈ l, f a = a := by
  conv => lhs; rhs; rw [← List.map_id l]
  exact List.map_inj_left

namespace Parameter

def bounds (p : Parameter) : List Binary64 := p.constraints.flatMap Constraint.bounds

def reloaded (p : Parameter) : Parameter :=
  { p with constraints := p.constraints.map Constraint.reloaded }

def members (p : Parameter) : List (String × Json.Value) :=
  [("name", .string p.name), ("type", .string p.type.name)]
    ++ textMember "label" p.label ++ textMember "description" p.description
    ++ textMember "default" p.default
    ++ [("hidden", .bool p.hidden), ("constraints", .array (p.constraints.map Constraint.record))]

def names : List String :=
  ["name", "type"] ++ ["label"] ++ ["description"] ++ ["default"] ++ ["hidden", "constraints"]

theorem names_members (p : Parameter) : (p.members.map Prod.fst).Sublist names := by
  simp only [members, List.map_append]
  exact ((((List.Sublist.refl _).append (names_textMember ..)).append
    (names_textMember ..)).append (names_textMember ..)).append (List.Sublist.refl _)

theorem lookup_label (p : Parameter) : p.members.lookup "label" = p.label.map Value.string := by
  simp [members, lookup_textMember, List.lookup_append, List.lookup]

theorem lookup_description (p : Parameter) :
    p.members.lookup "description" = p.description.map Value.string := by
  simp [members, lookup_textMember, List.lookup_append, List.lookup]

theorem lookup_default (p : Parameter) :
    p.members.lookup "default" = p.default.map Value.string := by
  simp [members, lookup_textMember, List.lookup_append, List.lookup]

theorem ofRecord?_record (room : Nat) (p : Parameter) :
    ofRecord? (room + 4) p.record.toSyntax = some p.reloaded := by
  have known : names.Nodup := by decide
  have distinct := p.names_members.nodup known
  have fields := fields?_object p.names_members known
  have name : required? (fieldsOf p.members) "name" text? = some p.name :=
    required?_member text? distinct (v := .string p.name) (by simp [members])
  have type : defaulted? (fieldsOf p.members) "type" .string (word? ValueType.ofName?) =
      some p.type :=
    (defaulted?_member _ _ distinct (v := .string p.type.name) (by simp [members])).trans
      (word?_name p.type)
  have hidden : defaulted? (fieldsOf p.members) "hidden" false flag? = some p.hidden :=
    defaulted?_member _ flag? distinct (v := .bool p.hidden) (by simp [members])
  have constraints : defaulted? (fieldsOf p.members) "constraints" []
      (items? (Constraint.ofRecord? (room + 2))) = some (p.constraints.map Constraint.reloaded) :=
    (defaulted?_member _ _ distinct (v := .array (p.constraints.map Constraint.record))
      (by simp [members])).trans (items?_array fun c _ => Constraint.ofRecord?_record room c)
  refine (congrArg (Option.bind · _) fields).trans ?_
  simp only [Option.bind_eq_bind, Option.bind_some, name, type, defaulted?_text p.lookup_label,
    defaulted?_text p.lookup_description, defaulted?_text p.lookup_default, hidden]
  exact congrArg (Option.bind · _) constraints

theorem reloaded_eq_self (p : Parameter) : p.reloaded = p ↔ ∀ x ∈ p.bounds, ReadsBack x := by
  have constraints : p.reloaded = p ↔ p.constraints.map Constraint.reloaded = p.constraints :=
    ⟨congrArg Parameter.constraints, fun same => by rw [reloaded, same]⟩
  simp only [constraints, map_eq_self, Constraint.reloaded_eq_self, bounds, List.mem_flatMap]
  exact ⟨fun each x ⟨c, member, bound⟩ => each c member x bound,
    fun all c member x bound => all x ⟨c, member, bound⟩⟩

end Parameter

namespace Output

def members (o : Output) : List (String × Json.Value) :=
  ("name", .string o.name) :: textMember "description" o.description

theorem ofRecord?_record (o : Output) : ofRecord? o.record.toSyntax = some o := by
  have known : ["name", "description"].Nodup := by decide
  have listed : (o.members.map Prod.fst).Sublist ["name", "description"] :=
    (names_textMember ..).cons_cons "name"
  have distinct := listed.nodup known
  have fields := fields?_object listed known
  have name : required? (fieldsOf o.members) "name" text? = some o.name :=
    required?_member text? distinct (v := .string o.name) (List.mem_cons_self ..)
  have description : o.members.lookup "description" = o.description.map Value.string :=
    lookup_textMember "description" "description" o.description
  refine (congrArg (Option.bind · _) fields).trans ?_
  rw [Option.bind_some, name]
  exact congrArg (Option.bind · _) (defaulted?_text description)

end Output

/-! ## Bundles -/

def Sections.members (s : Sections) : List (String × Json.Value) :=
  [("parameters", .bool s.parameters), ("outputs", .bool s.outputs), ("tags", .bool s.tags)]

theorem Sections.ofRecord?_record (s : Sections) : ofRecord? s.record.toSyntax = some s := by
  have fields : fields? ["parameters", "outputs", "tags"] s.record.toSyntax =
      some (fieldsOf s.members) :=
    fields?_object (List.Sublist.refl _) (by decide)
  rw [ofRecord?, fields]
  rfl

namespace Bundle

def reloaded (b : Bundle) : Bundle :=
  { b with parameters := b.parameters.map fun _ p => p.reloaded }

def members (b : Bundle) : List (String × Json.Value) :=
  [("name", .string b.name), ("version", .string b.version), ("label", .string b.label),
      ("sections", b.sections.record),
      ("parameters", .object (b.parameters.map fun _ p => p.record).entries),
      ("outputs", .object (b.outputs.map fun _ o => o.record).entries)]
    ++ textMember "tags" b.tags
    ++ [("source", .string b.source), ("fingerprint", .string b.fingerprint)]

def names : List String :=
  ["name", "version", "label", "sections", "parameters", "outputs"] ++ ["tags"]
    ++ ["source", "fingerprint"]

theorem names_members (b : Bundle) : (b.members.map Prod.fst).Sublist names := by
  simp only [members, List.map_append]
  exact ((List.Sublist.refl _).append (names_textMember ..)).append (List.Sublist.refl _)

theorem lookup_tags (b : Bundle) : b.members.lookup "tags" = b.tags.map Value.string := by
  simp [members, lookup_textMember, List.lookup_append, List.lookup]

theorem ofRecord?_record (b : Bundle) : ofRecord? b.record.toSyntax = some b.reloaded := by
  have known : names.Nodup := by decide
  have distinct := b.names_members.nodup known
  have fields := fields?_object b.names_members known
  have name : required? (fieldsOf b.members) "name" text? = some b.name :=
    required?_member text? distinct (v := .string b.name) (by simp [members])
  have version : defaulted? (fieldsOf b.members) "version" "" text? = some b.version :=
    defaulted?_member _ text? distinct (v := .string b.version) (by simp [members])
  have label : defaulted? (fieldsOf b.members) "label" "" text? = some b.label :=
    defaulted?_member _ text? distinct (v := .string b.label) (by simp [members])
  have sections : defaulted? (fieldsOf b.members) "sections" .none Sections.ofRecord? =
      some b.sections :=
    (defaulted?_member _ _ distinct (v := b.sections.record) (by simp [members])).trans
      b.sections.ofRecord?_record
  have parameters : defaulted? (fieldsOf b.members) "parameters" {}
      (table? (Parameter.ofRecord? (Syntax.nestingLimit - 2))) =
        some (b.parameters.map fun _ p => p.reloaded) :=
    (defaulted?_member _ _ distinct
      (v := .object (b.parameters.map fun _ p => Parameter.record p).entries)
      (by simp [members])).trans
      (table?_object fun p _ => Parameter.ofRecord?_record 121 p)
  have outputs : defaulted? (fieldsOf b.members) "outputs" {} (table? Output.ofRecord?) =
      some (b.outputs.map fun _ o => o) :=
    (defaulted?_member _ _ distinct
      (v := .object (b.outputs.map fun _ o => Output.record o).entries)
      (by simp [members])).trans
      (table?_object fun o _ => o.ofRecord?_record)
  have source : required? (fieldsOf b.members) "source" text? = some b.source :=
    required?_member text? distinct (v := .string b.source) (by simp [members])
  have fingerprint : required? (fieldsOf b.members) "fingerprint" text? = some b.fingerprint :=
    required?_member text? distinct (v := .string b.fingerprint) (by simp [members])
  have same : (b.outputs.map fun _ o => o) = b.outputs :=
    Table.entries_inj (List.map_id' b.outputs.entries)
  refine (congrArg (Option.bind · _) fields).trans ?_
  simp only [Option.bind_eq_bind, Option.bind_some, name, version, label, sections, parameters,
    outputs, defaulted?_text b.lookup_tags, source, fingerprint, same]
  rfl

/-- Every bundle is read back, with the bounds of its ranges as they are read. -/
theorem ofText?_text (b : Bundle) : ofText? b.text = some b.reloaded := by
  rw [ofText?, text, Syntax.parse?_indented, Option.bind_some, ofRecord?_record]

def bounds (b : Bundle) : List Binary64 := b.parameters.values.flatMap Parameter.bounds

theorem reloaded_eq_self (b : Bundle) : b.reloaded = b ↔ ∀ x ∈ b.bounds, ReadsBack x := by
  have entries : b.reloaded = b ↔
      (b.parameters.entries.map fun e => (e.1, e.2.reloaded)) = b.parameters.entries :=
    ⟨congrArg fun c : Bundle => c.parameters.entries, fun same =>
      congrArg (fun t => { b with parameters := t }) (Table.entries_inj same)⟩
  have each : (∀ e ∈ b.parameters.entries, (e.1, e.2.reloaded) = e) ↔
      ∀ p ∈ b.parameters.values, p.reloaded = p := by
    simp only [Table.values, List.forall_mem_map, Prod.ext_iff, true_and]
  simp only [entries, map_eq_self, each, Parameter.reloaded_eq_self, bounds, List.mem_flatMap]
  exact ⟨fun each x ⟨p, member, bound⟩ => each p member x bound,
    fun all p member x bound => all x ⟨p, member, bound⟩⟩

theorem ofText?_text_eq_self (b : Bundle) :
    ofText? b.text = some b ↔ ∀ x ∈ b.bounds, ReadsBack x := by
  rw [ofText?_text, Option.some_inj, reloaded_eq_self]

/-- A bundle is read back as it was written just where its bounds are; and so is a bundle that
came from a record of any form, once it is written in this one. -/
theorem round_trip :
    (∀ b : Bundle, ofText? b.text = some b ↔ ∀ x ∈ b.bounds, ReadsBack x) ∧
      ∀ (record : String) (b : Bundle), ofText? record = some b →
        (∀ x ∈ b.bounds, ReadsBack x) → ofText? b.text = some b :=
  ⟨ofText?_text_eq_self, fun _ b _ faithful => (ofText?_text_eq_self b).mpr faithful⟩

/-- One range, whose bound is 1.5, and no member that may be left out. -/
def ranged : Bundle where
  name := "t"
  version := ""
  label := ""
  sections := .none
  parameters := Table.ofList [("a", ⟨"a", .number, none, none, none, false,
    [.range (some ⟨4609434218613702656⟩) none "d"]⟩)]
  outputs := {}
  tags := none
  source := "\n"
  fingerprint := ""

/-- Another record of `ranged`, which leaves out what may be left out. -/
def sparseRecord : String :=
  "\x7b\"name\":\"t\",\"source\":\"\\u000A\",\"fingerprint\":\"\",\"parameters\":" ++
    "\x7b\"a\":\x7b\"type\":\"number\",\"constraints\":" ++
    "[\x7b\"description\":\"d\",\"min\":15e-1,\"kind\":\"range\"\x7d],\"name\":\"a\"\x7d\x7d\x7d"

theorem round_trip_ranged :
    ofText? sparseRecord = some ranged ∧ ofText? ranged.text = some ranged := by
  have read : ofText? sparseRecord = some ranged := by decide +kernel
  have bounds : ranged.bounds = [⟨4609434218613702656⟩] := by decide +kernel
  have faithful : ∀ x ∈ ranged.bounds, ReadsBack x := by
    rw [bounds]
    refine List.forall_mem_singleton.mpr ?_
    rw [ReadsBack, reread?_eq]
    decide +kernel
  exact ⟨read, round_trip.2 sparseRecord ranged read faithful⟩

end Bundle
end HeatStack.Template
