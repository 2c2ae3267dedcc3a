import HeatStack.Proofs.BundleRecord
import HeatStack.Proofs.FiniteNumbers

/-! # Ranges read back

A bound comes back as the number that is read of its text, and one that is not finite as none.  A
range checks the same numbers as before where each bound is read back or excluded nothing
(`Constraint.Kept`); and where the range is not empty, that is the only way it can. -/
set_option autoImplicit false
namespace HeatStack.Json
open HeatStack.Number

theorem reread_of_not_finite {x : Binary64} (special : x.isFinite = false) : reread x = none := by
  rw [reread, reread?_eq, Syntax.ofNumeric, if_neg (by rw [special]; decide)]
  rfl

/-- What is read back of a finite number is finite. -/
theorem exists_reread {x : Binary64} (finite : x.isFinite = true) :
    ∃ y, reread x = some y ∧ y.isFinite = true := by
  obtain ⟨y, read⟩ := Option.isSome_iff_exists.mp (Numeral.binary?_ofDecimal finite)
  refine ⟨y, ?_, Numeral.binary?_finite read⟩
  rw [reread, reread?_eq, Syntax.ofNumeric, if_pos finite]
  simp only [Reading.optional?, Reading.float?, Numeral.value?_ofDecimal, read]
  rfl

theorem finite_of_reread {x y : Binary64} (read : reread x = some y) :
    x.isFinite = true ∧ y.isFinite = true := by
  cases finite : x.isFinite with
  | true =>
      obtain ⟨z, same, special⟩ := exists_reread finite
      cases read.symm.trans same
      exact ⟨rfl, special⟩
  | false =>
      rw [reread_of_not_finite finite] at read
      cases read

theorem readsBack_of_zero {x : Binary64} (nothing : x.magnitude = 0) : ReadsBack x := by
  rw [← Binary64.zero_of_magnitude nothing, ReadsBack, reread?_eq]
  cases x.negative <;> decide +kernel

end HeatStack.Json

namespace HeatStack.Template
open HeatStack.Number HeatStack.Json

/-! ## Bounds -/

def inside (min max : Option Binary64) (n : Binary64) : Bool :=
  min.all (fun lo => lo.passes false n) && max.all (fun hi => hi.passes true n)

/-- A bound is kept where it is read back, or where it excludes nothing. -/
def BoundKept (upper : Bool) (x : Binary64) : Prop := ReadsBack x ∨ x = .infinity (!upper)

theorem BoundKept.passes_reread {upper : Bool} {x n : Binary64} (kept : BoundKept upper x)
    (finite : n.isFinite = true) :
    (reread x).all (fun y => y.passes upper n) = x.passes upper n := by
  rcases kept with same | rfl
  · rw [(readsBack_iff x).mp same]
    rfl
  · have special : (Binary64.infinity (!upper)).isFinite = false := by cases upper <;> rfl
    rw [reread_of_not_finite special, (Binary64.passes_special_iff upper special finite).mpr rfl]
    rfl

/-- Two bounds on one side let the same numbers pass, among those that pass on the other side: then
each lets the other pass. -/
theorem passes_mutual {upper : Bool} {x y : Binary64} {other other' : Binary64 → Bool}
    (finite : x.isFinite = true) (finite' : y.isFinite = true) (inner : other x = true)
    (between : other' x = true → other' y = false → x.passes upper y = true)
    (same : ∀ n, n.isFinite = true →
      (y.passes upper n && other' n) = (x.passes upper n && other n)) :
    x.passes upper y = true ∧ y.passes upper x = true := by
  have here := same x finite
  rw [Binary64.passes_self upper finite, inner, Bool.and_self, Bool.and_eq_true] at here
  refine ⟨?_, here.1⟩
  by_contra excluded
  have there := same y finite'
  rw [Bool.eq_false_iff.mpr excluded, Bool.false_and, Binary64.passes_self upper finite',
    Bool.true_and] at there
  exact excluded (between here.2 there)

theorem readsBack_of_passes {upper : Bool} {x y : Binary64} (read : reread x = some y)
    (inner : x.passes upper y = true) (outer : y.passes upper x = true) : ReadsBack x := by
  obtain ⟨finite, finite'⟩ := finite_of_reread read
  have order : x.scaled ≤ y.scaled ∧ y.scaled ≤ x.scaled := by
    rw [← Binary64.le_iff_scaled finite finite', ← Binary64.le_iff_scaled finite' finite]
    cases upper with
    | false => exact ⟨inner, outer⟩
    | true => exact ⟨outer, inner⟩
  by_cases nothing : x.magnitude = 0
  · exact readsBack_of_zero nothing
  · have number := Binary64.eq_of_scaled (Int.le_antisymm order.1 order.2) nothing
    rw [readsBack_iff, read, ← number]

/-- A bound that is in order with the one on the other side is kept, where the two still let the same
numbers pass. -/
theorem boundKept_of_same {upper : Bool} {x : Binary64} {other : Option Binary64}
    (ordered : ∀ z ∈ other, z.passes (!upper) x = true)
    (same : ∀ n, n.isFinite = true →
      ((reread x).all (fun y => y.passes upper n) &&
        (other.bind reread).all (fun z => z.passes (!upper) n)) =
      (x.passes upper n && other.all (fun z => z.passes (!upper) n))) : BoundKept upper x := by
  cases kind : x.isFinite with
  | true =>
      obtain ⟨y, read, finite⟩ := exists_reread kind
      rw [read] at same
      have inner : other.all (fun z => z.passes (!upper) x) = true := by
        rw [Option.all_eq_true]
        exact ordered
      have between (here : (other.bind reread).all (fun z => z.passes (!upper) x) = true)
          (there : (other.bind reread).all (fun z => z.passes (!upper) y) = false) :
          x.passes upper y = true := by
        cases bound : other.bind reread with
        | none =>
            rw [bound] at there
            cases there
        | some z =>
            obtain ⟨w, -, readOther⟩ := Option.bind_eq_some_iff.mp bound
            rw [bound, Option.all_some] at here there
            exact Binary64.passes_of_excluded upper kind finite (finite_of_reread readOther).2 here
              there
      obtain ⟨low, high⟩ := passes_mutual kind finite inner between same
      exact .inl (readsBack_of_passes read low high)
  | false =>
      -- It excluded everything; now it excludes nothing, and the other side cannot make up for it.
      refine .inr (by_contra fun useless => ?_)
      have zero : (Binary64.zero false).isFinite = true := rfl
      have excluded := Bool.eq_false_iff.mpr
        (mt (Binary64.passes_special_iff upper kind zero).mp useless)
      have verdict := same _ zero
      rw [reread_of_not_finite kind, excluded, Bool.false_and, Option.all_none, Bool.true_and]
        at verdict
      cases bound : other.bind reread with
      | none =>
          rw [bound] at verdict
          cases verdict
      | some z =>
          obtain ⟨z, found, read⟩ := Option.bind_eq_some_iff.mp bound
          have inner := ordered z found
          rw [Binary64.passes_not] at inner
          exact useless ((Binary64.passes_special_iff upper kind (finite_of_reread read).1).mp inner)

/-! ## Constraints -/

namespace Constraint

def Kept : Constraint → Prop
  | .range min max _ => (∀ lo ∈ min, BoundKept false lo) ∧ (∀ hi ∈ max, BoundKept true hi)
  | _ => True

/-- A range with two bounds has them in order. -/
def Ordered : Constraint → Prop
  | .range min max _ => ∀ lo ∈ min, ∀ hi ∈ max, lo.le hi = true
  | _ => True

/-- Two constraints that admit the same values. -/
def Agrees (c d : Constraint) : Prop := ∀ type value, d.admits type value = c.admits type value

theorem agrees_range_iff (min max min' max' : Option Binary64) (description : String) :
    Agrees (.range min max description) (.range min' max' description) ↔
      ∀ n, n.isFinite = true → inside min' max' n = inside min max n := by
  constructor
  · intro agrees n finite
    have verdict := agrees .number (String.ofList (exactChars n))
    simp only [admits, numberOf?_exactChars finite, ValueType.isMeasurable, Bool.not_true,
      Bool.false_or] at verdict
    exact verdict
  · intro same type value
    simp only [admits]
    cases number : numberOf? value with
    | none => rfl
    | some n =>
        have finite : n.isFinite = true := (Option.filter_eq_some_iff.mp number).2
        exact congrArg (!type.isMeasurable || ·) (same n finite)

theorem kind_reloaded (c : Constraint) : c.reloaded.kind = c.kind := by
  cases c <;> rfl

theorem description_reloaded (c : Constraint) : c.reloaded.description = c.description := by
  cases c <;> rfl

theorem Kept.agrees {c : Constraint} (kept : c.Kept) : c.Agrees c.reloaded := by
  cases c with
  | range min max description =>
      refine (agrees_range_iff ..).mpr fun n finite => ?_
      have side {upper : Bool} {bound : Option Binary64} (kept : ∀ x ∈ bound, BoundKept upper x) :
          (bound.bind reread).all (fun y => y.passes upper n) =
            bound.all (fun x => x.passes upper n) := by
        cases bound with
        | none => rfl
        | some x =>
            rw [Option.bind_some, Option.all_some]
            exact (kept x rfl).passes_reread finite
      rw [inside, inside, side kept.1, side kept.2]
  | _ => exact fun _ _ => rfl

/-- Where the bounds are in order, only kept bounds admit the same values. -/
theorem kept_of_agrees {c : Constraint} (ordered : c.Ordered) (agrees : c.Agrees c.reloaded) :
    c.Kept := by
  cases c with
  | range min max description =>
      have same := (agrees_range_iff ..).mp agrees
      refine ⟨fun lo lower => ?_, fun hi upper => ?_⟩
      · have inOrder : ∀ hi ∈ max, hi.passes (!false) lo = true := ordered lo lower
        refine boundKept_of_same inOrder fun n finite => ?_
        have verdict := same n finite
        rw [lower, inside, inside, Option.bind_some] at verdict
        exact verdict
      · have inOrder : ∀ lo ∈ min, lo.passes (!true) hi = true := fun lo lower =>
          ordered lo lower hi upper
        refine boundKept_of_same inOrder fun n finite => ?_
        have verdict := same n finite
        rw [upper, inside, inside, Option.bind_some, Bool.and_comm, Bool.and_comm (min.all _)]
          at verdict
        exact verdict
  | _ => exact trivial

theorem kept_iff {c : Constraint} (ordered : c.Ordered) : c.Kept ↔ c.Agrees c.reloaded :=
  ⟨Kept.agrees, kept_of_agrees ordered⟩

end Constraint
end HeatStack.Template
