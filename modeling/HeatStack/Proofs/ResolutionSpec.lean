import HeatStack.Proofs.Compilation
import HeatStack.Template.Resolution

/-! # What resolution decides

`Sound` says that a parameter has a value which it admits, and `EntryProblem` what is wrong where it
has none.  `FirstProblem` orders the problems of a whole template: supplied names that are not
declared come first, then the parameters by name.  A resolution exists exactly where there is no
problem, holds the value that counts for each parameter, and otherwise reports the first problem. -/
set_option autoImplicit false
namespace HeatStack.Template

/-- The value that counts for a parameter is there, and type and constraints admit it. -/
def Sound (supplied : Table String) (name : String) (p : Parameter) : Prop :=
  ∃ value, effectiveValue? supplied name p = some value ∧ p.type.accepts value = true ∧
    ∀ c ∈ p.constraints, c.admits p.type value = true

/-- What is wrong with the value of a parameter.  A constraint is only to blame if the type reads the
value and every earlier constraint admits it. -/
inductive EntryProblem (supplied : Table String) (name : String) (p : Parameter) : InputError → Prop
  | missing :
      effectiveValue? supplied name p = none →
      EntryProblem supplied name p (.missingValue name)
  | mismatch (value : String) :
      effectiveValue? supplied name p = some value →
      p.type.accepts value = false →
      EntryProblem supplied name p (.typeMismatch name p.type)
  | violated (value : String) (before : List Constraint) (c : Constraint) (after : List Constraint) :
      effectiveValue? supplied name p = some value →
      p.type.accepts value = true →
      p.constraints = before ++ c :: after →
      (∀ d ∈ before, d.admits p.type value = true) →
      c.admits p.type value = false →
      EntryProblem supplied name p (.constraintViolated name c.kind c.description)

inductive FirstProblem (b : Bundle) (supplied : Table String) : InputError → Prop
  | unknown (name : String) :
      name ∈ supplied.keys →
      name ∉ b.parameters.keys →
      (∀ n ∈ supplied.keys, n < name → n ∈ b.parameters.keys) →
      FirstProblem b supplied (.unknownParameter name b.name)
  | entry (name : String) (p : Parameter) (e : InputError) :
      (∀ n ∈ supplied.keys, n ∈ b.parameters.keys) →
      b.parameters.get? name = some p →
      (∀ n q, b.parameters.get? n = some q → n < name → Sound supplied n q) →
      EntryProblem supplied name p e →
      FirstProblem b supplied e

/-! ## One value -/

theorem Parameter.check_eq_error_iff (p : Parameter) (value : String) (e : InputError) :
    p.check value = .error e ↔
      (p.type.accepts value = false ∧ e = .typeMismatch p.name p.type) ∨
      (p.type.accepts value = true ∧ ∃ before c after, p.constraints = before ++ c :: after ∧
        (∀ d ∈ before, d.admits p.type value = true) ∧ c.admits p.type value = false ∧
        e = .constraintViolated p.name c.kind c.description) := by
  unfold check
  cases accepted : p.type.accepts value with
  | false =>
      simp only [Bool.not_false, if_true, Except.error.injEq, true_and, Bool.false_eq_true, false_and,
        or_false]
      exact eq_comm
  | true =>
      simp only [Bool.not_true, Bool.false_eq_true, if_false, reduceCtorEq, false_and, true_and,
        false_or]
      constructor
      · intro failed
        cases found : p.constraints.find? fun c => !c.admits p.type value with
        | none => simp [found] at failed
        | some c =>
            obtain ⟨violated, before, after, split, admitted⟩ := List.find?_eq_some_iff_append.mp found
            simp only [found, Except.error.injEq] at failed
            exact ⟨before, c, after, split, by simpa using admitted, by simpa using violated,
              failed.symm⟩
      · rintro ⟨before, c, after, split, admitted, violated, rfl⟩
        have found : p.constraints.find? (fun c => !c.admits p.type value) = some c :=
          List.find?_eq_some_iff_append.mpr
            ⟨by simp [violated], before, after, split, by simpa using admitted⟩
        rw [found]

/-- The verdict on a value does not look at the order of the constraints. -/
theorem Parameter.check_eq_ok_iff_of_perm (p q : Parameter) (value : String) (type : p.type = q.type)
    (perm : p.constraints.Perm q.constraints) : p.check value = .ok () ↔ q.check value = .ok () := by
  rw [check_eq_ok_iff, check_eq_ok_iff, type]
  exact and_congr_right fun _ => forall_congr' fun c => by rw [perm.mem_iff]

/-! ## One parameter -/

variable (supplied : Table String)

theorem resolveEntry_eq_ok_iff (name : String) (p : Parameter) (v : String × Bool) :
    resolveEntry supplied name p = .ok v ↔
      effectiveValue? supplied name p = some v.1 ∧ p.check v.1 = .ok () ∧ v.2 = p.hidden := by
  obtain ⟨value, hidden⟩ := v
  unfold resolveEntry
  cases effectiveValue? supplied name p with
  | none => simp
  | some actual =>
      cases checked : p.check actual with
      | error e =>
          simp only [checked, Except.map, reduceCtorEq, Option.some.injEq, false_iff, not_and]
          rintro rfl ok
          rw [checked] at ok
          cases ok
      | ok =>
          simp only [checked, Except.map, Except.ok.injEq, Prod.mk.injEq, Option.some.injEq]
          constructor
          · rintro ⟨rfl, rfl⟩
            exact ⟨rfl, checked, rfl⟩
          · rintro ⟨rfl, -, rfl⟩
            exact ⟨rfl, rfl⟩

theorem sound_iff (name : String) (p : Parameter) :
    Sound supplied name p ↔ ∃ v, resolveEntry supplied name p = .ok v := by
  constructor
  · rintro ⟨value, effective, accepted, admitted⟩
    exact ⟨(value, p.hidden), (resolveEntry_eq_ok_iff supplied name p _).mpr
      ⟨effective, (p.check_eq_ok_iff value).mpr ⟨accepted, admitted⟩, rfl⟩⟩
  · rintro ⟨v, resolved⟩
    obtain ⟨effective, checked, -⟩ := (resolveEntry_eq_ok_iff supplied name p v).mp resolved
    exact ⟨v.1, effective, (p.check_eq_ok_iff v.1).mp checked⟩

theorem resolveEntry_eq_error_iff (p : Parameter) (e : InputError) :
    resolveEntry supplied p.name p = .error e ↔ EntryProblem supplied p.name p e := by
  constructor
  · intro failed
    unfold resolveEntry at failed
    cases effective : effectiveValue? supplied p.name p with
    | none =>
        simp only [effective, Except.error.injEq] at failed
        subst failed
        exact .missing effective
    | some value =>
        cases checked : p.check value with
        | ok => simp [effective, checked, Except.map] at failed
        | error e' =>
            simp only [effective, checked, Except.map, Except.error.injEq] at failed
            subst failed
            rcases (p.check_eq_error_iff value e').mp checked with
              ⟨rejected, rfl⟩ | ⟨accepted, before, c, after, split, admitted, violated, rfl⟩
            · exact .mismatch value effective rejected
            · exact .violated value before c after effective accepted split admitted violated
  · intro problem
    cases problem with
    | missing effective => simp [resolveEntry, effective]
    | mismatch value effective rejected =>
        have checked := (p.check_eq_error_iff value _).mpr (.inl ⟨rejected, rfl⟩)
        simp [resolveEntry, effective, checked, Except.map]
    | violated value before c after effective accepted split admitted violated =>
        have checked := (p.check_eq_error_iff value _).mpr
          (.inr ⟨accepted, before, c, after, split, admitted, violated, rfl⟩)
        simp [resolveEntry, effective, checked, Except.map]

/-! ## All parameters -/

theorem resolveEntries_eq_ok (l : List (String × Parameter)) :
    ∀ vs, resolveEntries supplied l = .ok vs →
      vs.map Prod.fst = l.map Prod.fst ∧
      ∀ name p, (name, p) ∈ l →
        ∃ v, (name, v) ∈ vs ∧ resolveEntry supplied name p = .ok v := by
  induction l with
  | nil =>
      intro vs resolved
      cases resolved
      exact ⟨rfl, fun _ _ member => (List.not_mem_nil member).elim⟩
  | cons head rest ih =>
      intro vs resolved
      obtain ⟨k, q⟩ := head
      simp only [resolveEntries] at resolved
      cases first : resolveEntry supplied k q with
      | error e => simp [first] at resolved
      | ok w =>
          cases later : resolveEntries supplied rest with
          | error e => simp [first, later, Except.map] at resolved
          | ok ws =>
              simp only [first, later, Except.map, Except.ok.injEq] at resolved
              subst resolved
              obtain ⟨names, each⟩ := ih ws later
              refine ⟨by simp [names], ?_⟩
              intro name p member
              rcases List.mem_cons.mp member with same | member
              · cases same
                exact ⟨w, List.mem_cons_self .., first⟩
              · obtain ⟨v, found, resolved⟩ := each name p member
                exact ⟨v, List.mem_cons_of_mem _ found, resolved⟩

theorem resolveEntries_of_sound (l : List (String × Parameter))
    (sound : ∀ name p, (name, p) ∈ l → Sound supplied name p) :
    ∃ vs, resolveEntries supplied l = .ok vs := by
  induction l with
  | nil => exact ⟨[], rfl⟩
  | cons head rest ih =>
      obtain ⟨k, q⟩ := head
      obtain ⟨w, first⟩ := (sound_iff supplied k q).mp (sound k q (List.mem_cons_self ..))
      obtain ⟨ws, later⟩ := ih fun name p member => sound name p (List.mem_cons_of_mem _ member)
      exact ⟨(k, w) :: ws, by simp [resolveEntries, first, later, Except.map]⟩

/-- The error of a list of entries is that of its first entry that has one. -/
theorem resolveEntries_eq_error_iff (l : List (String × Parameter)) (e : InputError) :
    resolveEntries supplied l = .error e ↔
      ∃ before m after, l = before ++ m :: after ∧ (∀ n ∈ before, Sound supplied n.1 n.2) ∧
        resolveEntry supplied m.1 m.2 = .error e := by
  induction l with
  | nil => simp [resolveEntries]
  | cons head rest ih =>
      rw [Table.exists_first_cons_iff, ← ih, sound_iff]
      simp only [resolveEntries]
      cases first : resolveEntry supplied head.1 head.2 with
      | error e' => simp
      | ok w => cases resolveEntries supplied rest <;> simp [Except.map]

/-- Only the values that count are looked at. -/
theorem resolveEntries_congr (other : Table String) (l : List (String × Parameter))
    (same : ∀ name p, (name, p) ∈ l →
      effectiveValue? other name p = effectiveValue? supplied name p) :
    resolveEntries other l = resolveEntries supplied l := by
  induction l with
  | nil => rfl
  | cons head rest ih =>
      obtain ⟨k, q⟩ := head
      have first : resolveEntry other k q = resolveEntry supplied k q := by
        unfold resolveEntry
        rw [same k q (List.mem_cons_self ..)]
      have later := ih fun name p member => same name p (List.mem_cons_of_mem _ member)
      simp only [resolveEntries, first, later]

/-! ## The whole template -/

theorem declared_iff (b : Bundle) (name : String) :
    (!(b.parameters.get? name).isNone) = true ↔ name ∈ b.parameters.keys := by
  rw [Table.mem_keys_iff]
  cases b.parameters.get? name <;> simp

theorem find?_undeclared_eq_none_iff (b : Bundle) :
    (supplied.keys.find? fun name => (b.parameters.get? name).isNone) = none ↔
      ∀ n ∈ supplied.keys, n ∈ b.parameters.keys := by
  rw [List.find?_eq_none]
  refine forall_congr' fun n => imp_congr_right fun _ => ?_
  rw [← declared_iff b n, Bool.not_eq_true, Bool.not_eq_true']

/-- The first undeclared name in the table is the least one, since a table is in order. -/
theorem find?_undeclared_eq_some_iff (b : Bundle) (name : String) :
    (supplied.keys.find? fun name => (b.parameters.get? name).isNone) = some name ↔
      name ∈ supplied.keys ∧ name ∉ b.parameters.keys ∧
        ∀ n ∈ supplied.keys, n < name → n ∈ b.parameters.keys := by
  have undeclared : (b.parameters.get? name).isNone = true ↔ name ∉ b.parameters.keys := by
    rw [Option.isNone_iff_eq_none, Table.get?_eq_none_iff]
  have asymm : ∀ m n : String, m < n → ¬ n < m := fun _ _ => String.lt_asymm
  have sorted := supplied.sorted_keys
  rw [List.find?_eq_some_iff_append]
  constructor
  · rintro ⟨absent, before, after, split, declared⟩
    rw [split] at sorted ⊢
    refine ⟨by simp, undeclared.mp absent, fun n member smaller => ?_⟩
    exact (declared_iff b n).mp (declared n ((Table.mem_before_iff asymm sorted).mpr ⟨member, smaller⟩))
  · rintro ⟨member, absent, declared⟩
    obtain ⟨before, after, split⟩ := List.append_of_mem member
    refine ⟨undeclared.mpr absent, before, after, split, fun n earlier => ?_⟩
    rw [split] at sorted
    obtain ⟨member, smaller⟩ := (Table.mem_before_iff asymm sorted).mp earlier
    exact (declared_iff b n).mpr (declared n (split ▸ member) smaller)

theorem resolve_eq_ok (b : Bundle) (r : Resolution) (resolved : resolve b supplied = .ok r) :
    (∀ n ∈ supplied.keys, n ∈ b.parameters.keys) ∧
    r.template = b.name ∧ r.fingerprint = b.fingerprint ∧ r.values.keys = b.parameters.keys ∧
    ∀ name p, b.parameters.get? name = some p →
      ∃ v, r.values.get? name = some v ∧ resolveEntry supplied name p = .ok v := by
  unfold resolve at resolved
  cases undeclared : supplied.keys.find? fun name => (b.parameters.get? name).isNone with
  | some name => simp [undeclared] at resolved
  | none =>
      cases entries : resolveEntries supplied b.parameters.entries with
      | error e => simp [undeclared, entries, Except.map] at resolved
      | ok vs =>
          simp only [undeclared, entries, Except.map, Except.ok.injEq] at resolved
          subst resolved
          obtain ⟨names, each⟩ := resolveEntries_eq_ok supplied b.parameters.entries vs entries
          have sorted : vs.Pairwise (fun a b => a.1 < b.1) := by
            rw [← List.pairwise_map (f := Prod.fst), names, List.pairwise_map]
            exact b.parameters.sorted
          refine ⟨(find?_undeclared_eq_none_iff supplied b).mp undeclared, rfl, rfl, ?_, ?_⟩
          · rw [Table.keys, Table.entries_ofList vs sorted, names]
            rfl
          · intro name p declared
            obtain ⟨v, found, resolved⟩ :=
              each name p ((b.parameters.get?_eq_some_iff name p).mp declared)
            refine ⟨v, ?_, resolved⟩
            rw [Table.get?_eq_some_iff, Table.entries_ofList vs sorted]
            exact found

theorem exists_resolve_iff (b : Bundle) :
    (∃ r, resolve b supplied = .ok r) ↔
      (∀ n ∈ supplied.keys, n ∈ b.parameters.keys) ∧
      ∀ name p, b.parameters.get? name = some p → Sound supplied name p := by
  constructor
  · rintro ⟨r, resolved⟩
    obtain ⟨declared, -, -, -, each⟩ := resolve_eq_ok supplied b r resolved
    refine ⟨declared, ?_⟩
    intro name p found
    obtain ⟨v, -, resolved⟩ := each name p found
    exact (sound_iff supplied name p).mpr ⟨v, resolved⟩
  · rintro ⟨declared, sound⟩
    obtain ⟨vs, entries⟩ := resolveEntries_of_sound supplied b.parameters.entries
      fun name p member => sound name p ((b.parameters.get?_eq_some_iff name p).mpr member)
    refine ⟨⟨b.name, b.fingerprint, Table.ofList vs⟩, ?_⟩
    simp [resolve, (find?_undeclared_eq_none_iff supplied b).mpr declared, entries, Except.map]

/-- The values of a resolution, supplied in their turn, count for the same parameters again. -/
theorem resolve_plain (b : Bundle) (r : Resolution) (resolved : resolve b supplied = .ok r) :
    resolve b r.plain = .ok r := by
  obtain ⟨declared, -, -, keys, each⟩ := resolve_eq_ok supplied b r resolved
  have known : r.plain.keys.find? (fun name => (b.parameters.get? name).isNone) = none := by
    rw [find?_undeclared_eq_none_iff, Resolution.plain, Table.keys_map, keys]
    exact fun _ member => member
  have same : resolveEntries r.plain b.parameters.entries =
      resolveEntries supplied b.parameters.entries := by
    apply resolveEntries_congr
    intro name p member
    obtain ⟨v, found, resolved⟩ := each name p ((b.parameters.get?_eq_some_iff name p).mpr member)
    have effective := ((resolveEntry_eq_ok_iff supplied name p v).mp resolved).1
    rw [effective, effectiveValue?, Resolution.plain, Table.get?_map, found]
    rfl
  rw [← resolved, resolve, resolve, known, (find?_undeclared_eq_none_iff supplied b).mpr declared, same]

/-- A problem of the list of entries is a problem of the least name, because the list is in order. -/
theorem resolveEntries_eq_error_iff_least (b : Bundle) (named : b.WellNamed) (e : InputError) :
    resolveEntries supplied b.parameters.entries = .error e ↔
      ∃ name p, b.parameters.get? name = some p ∧
        (∀ n q, b.parameters.get? n = some q → n < name → Sound supplied n q) ∧
        EntryProblem supplied name p e := by
  have asymm : ∀ m n : String × Parameter, m.1 < n.1 → ¬ n.1 < m.1 := fun _ _ => String.lt_asymm
  have sorted := b.parameters.sorted
  rw [resolveEntries_eq_error_iff]
  constructor
  · rintro ⟨before, ⟨name, p⟩, after, split, sound, failed⟩
    have found : b.parameters.get? name = some p := by
      rw [Table.get?_eq_some_iff, split]
      simp
    have own : p.name = name := named name p found
    refine ⟨name, p, found, fun n q other smaller => ?_, ?_⟩
    · rw [Table.get?_eq_some_iff, split] at other
      rw [split] at sorted
      exact sound (n, q) ((Table.mem_before_iff asymm sorted).mpr ⟨other, smaller⟩)
    · subst own
      exact (resolveEntry_eq_error_iff supplied p e).mp failed
  · rintro ⟨name, p, found, sound, problem⟩
    have own : p.name = name := named name p found
    obtain ⟨before, after, split⟩ :=
      List.append_of_mem ((b.parameters.get?_eq_some_iff name p).mp found)
    refine ⟨before, (name, p), after, split, fun m earlier => ?_, ?_⟩
    · rw [split] at sorted
      obtain ⟨member, smaller⟩ := (Table.mem_before_iff asymm sorted).mp earlier
      rw [← split] at member
      exact sound m.1 m.2 ((b.parameters.get?_eq_some_iff m.1 m.2).mpr member) smaller
    · subst own
      exact (resolveEntry_eq_error_iff supplied p e).mpr problem

theorem resolve_eq_error_iff (b : Bundle) (named : b.WellNamed) (e : InputError) :
    resolve b supplied = .error e ↔ FirstProblem b supplied e := by
  unfold resolve
  cases undeclared : supplied.keys.find? fun name => (b.parameters.get? name).isNone with
  | some name =>
      obtain ⟨member, absent, least⟩ := (find?_undeclared_eq_some_iff supplied b name).mp undeclared
      simp only [Except.error.injEq]
      constructor
      · rintro rfl
        exact .unknown name member absent least
      · intro problem
        cases problem with
        | unknown other member' absent' least' =>
            have found :=
              (find?_undeclared_eq_some_iff supplied b other).mpr ⟨member', absent', least'⟩
            rw [undeclared] at found
            rw [Option.some.inj found]
        | entry _ _ _ declared => exact absurd (declared name member) absent
  | none =>
      have declared := (find?_undeclared_eq_none_iff supplied b).mp undeclared
      have map_iff : (resolveEntries supplied b.parameters.entries).map
          (fun values => (⟨b.name, b.fingerprint, Table.ofList values⟩ : Resolution)) = .error e ↔
          resolveEntries supplied b.parameters.entries = .error e := by
        cases resolveEntries supplied b.parameters.entries <;> simp [Except.map]
      simp only []
      rw [map_iff, resolveEntries_eq_error_iff_least supplied b named e]
      constructor
      · rintro ⟨name, p, found, sound, problem⟩
        exact .entry name p e declared found sound problem
      · intro problem
        cases problem with
        | unknown name member absent => exact absurd (declared name member) absent
        | entry name p _ _ found sound problem => exact ⟨name, p, found, sound, problem⟩

theorem get?_values_iff (b : Bundle) (r : Resolution) (resolved : resolve b supplied = .ok r)
    (name : String) (v : String × Bool) :
    r.values.get? name = some v ↔
      ∃ p, b.parameters.get? name = some p ∧ effectiveValue? supplied name p = some v.1 ∧
        v.2 = p.hidden := by
  obtain ⟨-, -, -, keys, each⟩ := resolve_eq_ok supplied b r resolved
  constructor
  · intro found
    have declared : name ∈ b.parameters.keys := by
      rw [← keys, Table.mem_keys_iff]
      exact ⟨v, found⟩
    obtain ⟨p, present⟩ := (b.parameters.mem_keys_iff name).mp declared
    obtain ⟨w, held, resolved⟩ := each name p present
    have same : v = w := Option.some.inj (found.symm.trans held)
    obtain ⟨effective, -, hidden⟩ := (resolveEntry_eq_ok_iff supplied name p w).mp resolved
    exact ⟨p, present, by rw [same]; exact effective, by rw [same]; exact hidden⟩
  · rintro ⟨p, present, effective, hidden⟩
    obtain ⟨w, held, resolved⟩ := each name p present
    obtain ⟨effective', -, hidden'⟩ := (resolveEntry_eq_ok_iff supplied name p w).mp resolved
    have same : w = v :=
      Prod.ext (Option.some.inj (effective'.symm.trans effective)) (hidden'.trans hidden.symm)
    rw [held, same]

/-- A resolution exists exactly where every supplied name is declared and every parameter is sound.
It then holds the declared names with the values that count for them and their hidden marks, and
resolves to itself.  Otherwise the error is the first problem.  In which order constraints stand
decides which of them is reported, and never whether a value is accepted. -/
theorem resolve_specification (b : Bundle) (supplied : Table String) (named : b.WellNamed) :
    ((∃ r, resolve b supplied = .ok r) ↔
      (∀ n ∈ supplied.keys, n ∈ b.parameters.keys) ∧
      ∀ name p, b.parameters.get? name = some p → Sound supplied name p) ∧
    (∀ r, resolve b supplied = .ok r →
      r.template = b.name ∧ r.fingerprint = b.fingerprint ∧ r.values.keys = b.parameters.keys ∧
      (∀ name v, r.values.get? name = some v ↔
        ∃ p, b.parameters.get? name = some p ∧ effectiveValue? supplied name p = some v.1 ∧
          v.2 = p.hidden) ∧
      resolve b r.plain = .ok r) ∧
    (∀ e, resolve b supplied = .error e ↔ FirstProblem b supplied e) ∧
    (∀ (p : Parameter) (constraints : List Constraint) (value : String),
      p.constraints.Perm constraints →
        (p.check value = .ok () ↔ { p with constraints := constraints }.check value = .ok ())) := by
  refine ⟨exists_resolve_iff supplied b, ?_, resolve_eq_error_iff supplied b named, ?_⟩
  · intro r resolved
    obtain ⟨-, template, fingerprint, keys, -⟩ := resolve_eq_ok supplied b r resolved
    exact ⟨template, fingerprint, keys, get?_values_iff supplied b r resolved,
      resolve_plain supplied b r resolved⟩
  · intro p constraints value perm
    exact p.check_eq_ok_iff_of_perm { p with constraints := constraints } value rfl perm

/-- Two parameters with a fault each: the one whose name comes first is reported, and of its two
violated constraints the one that is declared first. -/
def twoFaults : Bundle :=
  ((Bundle.empty "web" "").insertParameter (.bare "zone" .string)).insertParameter
    { Parameter.bare "flavor" .string with
      constraints := [.allowedValues ["large"] "a size", .length (some 1) (some 3) "short"] }

theorem resolve_specification_twoFaults :
    twoFaults.WellNamed ∧
    FirstProblem twoFaults (Table.ofList [("flavor", "small")])
      (.constraintViolated "flavor" .allowedValues "a size") := by
  have named : twoFaults.WellNamed :=
    Bundle.wellNamed_insertParameter _ _
      (Bundle.wellNamed_insertParameter _ _ (Bundle.wellNamed_empty "web" ""))
  exact ⟨named, ((resolve_specification twoFaults _ named).2.2.1 _).mp rfl⟩

end HeatStack.Template
