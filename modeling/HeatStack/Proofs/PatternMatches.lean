import HeatStack.Proofs.WrappedPatterns

/-! # Which values a pattern admits

`advance` decides `Spans`: a step of it leads to the positions that the expression leads to, and steps
without bound are as good as `text.size + 1` of them, since no position comes before the one that leads
to it.  A pattern between the marks for the start and the end then occurs in a text if it spans it. -/
set_option autoImplicit false
namespace HeatStack.Regex

variable {text : Array Char}

/-! ## Positions -/

theorem mem_mergeGo (n : Nat) (a b : List Nat) (enough : a.length + b.length ≤ n) (x : Nat) :
    x ∈ Positions.merge.go n a b ↔ x ∈ a ∨ x ∈ b := by
  induction n generalizing a b with
  | zero =>
      obtain ⟨rfl, rfl⟩ : a = [] ∧ b = [] := by
        simpa [← List.length_eq_zero_iff] using enough
      simp [Positions.merge.go]
  | succ n ih =>
      cases a with
      | nil => simp [Positions.merge.go]
      | cons y a =>
          cases b with
          | nil => simp [Positions.merge.go]
          | cons z b =>
              simp only [List.length_cons] at enough
              unfold Positions.merge.go
              split_ifs with less more
              · rw [List.mem_cons, ih a (z :: b) (by simp only [List.length_cons]; omega), List.mem_cons,
                  List.mem_cons, or_assoc]
              · rw [List.mem_cons, ih (y :: a) b (by simp only [List.length_cons]; omega), List.mem_cons,
                  List.mem_cons]
                tauto
              · obtain rfl : y = z := by omega
                rw [List.mem_cons, ih a b (by omega), List.mem_cons, List.mem_cons]
                tauto

theorem mem_merge {a b : Positions} {x : Nat} : x ∈ a.merge b ↔ x ∈ a ∨ x ∈ b :=
  mem_mergeGo _ a b (Nat.le_refl _) x

theorem times_eq (f : Positions → Positions) (n : Nat) (ps : Positions) : times f n ps = f^[n] ps := by
  induction n generalizing ps with
  | zero => rfl
  | succ n ih =>
      unfold times
      dsimp only
      split
      · next fixed => exact (Function.iterate_fixed fixed _).symm
      · exact ih (f ps)

theorem upTo_eq (f : Positions → Positions) (n : Nat) (ps : Positions) :
    upTo f n ps = times (fun ps => ps.merge (f ps)) n ps := by
  induction n generalizing ps with
  | zero => rfl
  | succ n ih => simp only [upTo, times, ih]

/-! ## Expressions one after the other -/

mutual
/-- Positions go forwards, and they stay in the text. -/
theorem Spans.forwards {e : Expr} {i j : Nat} : Spans text e i j → i ≤ j ∧ (i ≤ text.size → j ≤ text.size)
  | .empty i => ⟨Nat.le_refl i, id⟩
  | .set found _ => ⟨Nat.le_succ _, fun _ => (Array.getElem?_eq_some_iff.mp found).1⟩
  | .look _ => ⟨Nat.le_refl _, id⟩
  | .capture inner => inner.forwards
  | .sequence inner => inner.forwards
  | .choice _ inner => inner.forwards
  | .iterate _ _ inner => inner.forwards

theorem SpansAll.forwards {es : List Expr} {i j : Nat} :
    SpansAll text es i j → i ≤ j ∧ (i ≤ text.size → j ≤ text.size)
  | .nil i => ⟨Nat.le_refl i, id⟩
  | .cons first rest =>
    ⟨Nat.le_trans first.forwards.1 rest.forwards.1, fun le => rest.forwards.2 (first.forwards.2 le)⟩
end

theorem spansAll_nil {i j : Nat} : SpansAll text [] i j ↔ i = j := by
  constructor
  · rintro ⟨⟩
    rfl
  · rintro rfl
    exact .nil i

theorem spansAll_cons {e : Expr} {es : List Expr} {i k : Nat} :
    SpansAll text (e :: es) i k ↔ ∃ j, Spans text e i j ∧ SpansAll text es j k := by
  constructor
  · rintro (_ | ⟨first, rest⟩)
    exact ⟨_, first, rest⟩
  · rintro ⟨j, first, rest⟩
    exact .cons first rest

theorem spansAll_append {es fs : List Expr} {i k : Nat} :
    SpansAll text (es ++ fs) i k ↔ ∃ j, SpansAll text es i j ∧ SpansAll text fs j k := by
  induction es generalizing i with
  | nil => simp [spansAll_nil]
  | cons e es ih =>
      simp only [List.cons_append, spansAll_cons, ih]
      constructor
      · rintro ⟨j, first, m, rest, last⟩
        exact ⟨m, ⟨j, first, rest⟩, last⟩
      · rintro ⟨m, ⟨j, first, rest⟩, last⟩
        exact ⟨j, first, m, rest, last⟩

/-- Steps that lead nowhere can be left out. -/
theorem SpansAll.shorten {e : Expr} {n i j : Nat} (steps : SpansAll text (List.replicate n e) i j) :
    ∃ m ≤ j - i, SpansAll text (List.replicate m e) i j := by
  induction n generalizing i with
  | zero => exact ⟨0, Nat.zero_le _, steps⟩
  | succ n ih =>
      obtain ⟨k, first, rest⟩ := spansAll_cons.mp steps
      obtain ⟨m, le, shorter⟩ := ih rest
      rcases Nat.eq_or_lt_of_le first.forwards.1 with same | further
      · exact ⟨m, same ▸ le, same ▸ shorter⟩
      · have behind := rest.forwards.1
        exact ⟨m + 1, by omega, spansAll_cons.mpr ⟨k, first, shorter⟩⟩

/-! ## Repetitions -/

def Inside (text : Array Char) (ps : Positions) : Prop := ∀ i ∈ ps, i ≤ text.size

/-- From positions in the text `f` leads to where the expression does. -/
def Leads (text : Array Char) (f : Positions → Positions) (e : Expr) : Prop :=
  ∀ ps, Inside text ps → ∀ j, j ∈ f ps ↔ ∃ i ∈ ps, Spans text e i j

section
variable {f : Positions → Positions} {e : Expr} (leads : Leads text f e)
include leads

theorem Leads.inside {ps : Positions} (inside : Inside text ps) : Inside text (f ps) := by
  intro j reached
  obtain ⟨i, here, spans⟩ := (leads ps inside j).mp reached
  exact spans.forwards.2 (inside i here)

theorem Leads.times {ps : Positions} (inside : Inside text ps) (n j : Nat) :
    j ∈ times f n ps ↔ ∃ i ∈ ps, SpansAll text (List.replicate n e) i j := by
  rw [times_eq]
  induction n generalizing ps with
  | zero => simp [spansAll_nil]
  | succ n ih =>
      rw [Function.iterate_succ_apply, ih (leads.inside inside)]
      simp only [leads ps inside, List.replicate_succ, spansAll_cons]
      constructor
      · rintro ⟨k, ⟨i, here, first⟩, rest⟩
        exact ⟨i, here, k, first, rest⟩
      · rintro ⟨i, here, k, first, rest⟩
        exact ⟨k, ⟨i, here, first⟩, rest⟩

theorem Leads.upTo {ps : Positions} (inside : Inside text ps) (n j : Nat) :
    j ∈ upTo f n ps ↔ ∃ i ∈ ps, ∃ k ≤ n, SpansAll text (List.replicate k e) i j := by
  rw [upTo_eq, times_eq]
  induction n generalizing ps with
  | zero =>
      simp only [Function.iterate_zero, id, Nat.le_zero]
      constructor
      · exact fun here => ⟨j, here, 0, rfl, .nil j⟩
      · rintro ⟨i, here, _, rfl, steps⟩
        exact spansAll_nil.mp steps ▸ here
  | succ n ih =>
      have both : Inside text (ps.merge (f ps)) := by
        intro i here
        exact (mem_merge.mp here).elim (inside i) (leads.inside inside i)
      rw [Function.iterate_succ_apply, ih both]
      constructor
      · rintro ⟨i, here, k, le, steps⟩
        rcases mem_merge.mp here with here | stepped
        · exact ⟨i, here, k, Nat.le_succ_of_le le, steps⟩
        · obtain ⟨i', here, first⟩ := (leads ps inside i).mp stepped
          exact ⟨i', here, k + 1, Nat.succ_le_succ le, spansAll_cons.mpr ⟨i, first, steps⟩⟩
      · rintro ⟨i, here, k, le, steps⟩
        cases k with
        | zero => exact ⟨i, mem_merge.mpr (.inl here), 0, Nat.zero_le _, steps⟩
        | succ k =>
            obtain ⟨i', first, rest⟩ := spansAll_cons.mp steps
            have stepped := (leads ps inside i').mpr ⟨i, here, first⟩
            exact ⟨i', mem_merge.mpr (.inr stepped), k, Nat.le_of_succ_le_succ le, rest⟩

/-- How many steps are tried behind those that have to be there. -/
def extraSteps (text : Array Char) (least : Nat) : Option Nat → Nat
  | some most => most - least
  | none => text.size + 1

theorem Leads.iterate (least : Nat) (most : Option Nat) : Leads text
    (fun ps => Regex.upTo f (extraSteps text least most) (Regex.times f least ps)) (.iterate least most e) := by
  intro ps inside j
  have first := leads.times inside least
  have within : Inside text (Regex.times f least ps) := by
    intro k reached
    obtain ⟨i, here, steps⟩ := (first k).mp reached
    exact steps.forwards.2 (inside i here)
  rw [leads.upTo within]
  constructor
  · rintro ⟨k, reached, m, le, extra⟩
    obtain ⟨i, here, steps⟩ := (first k).mp reached
    refine ⟨i, here, .iterate (Nat.le_add_right least m) (fun most bound => ?_) ?_⟩
    · cases bound
      change m ≤ most - least at le
      omega
    · rw [List.replicate_add]
      exact spansAll_append.mpr ⟨k, steps, extra⟩
  · rintro ⟨i, here, spans⟩
    cases spans with
    | @iterate _ n _ _ _ _ enough bounded steps =>
        obtain ⟨m, rfl⟩ := Nat.exists_eq_add_of_le enough
        rw [List.replicate_add] at steps
        obtain ⟨k, steps, extra⟩ := spansAll_append.mp steps
        refine ⟨k, (first k).mpr ⟨i, here, steps⟩, ?_⟩
        cases most with
        | some most =>
            have le := bounded most rfl
            exact ⟨m, show m ≤ most - least by omega, extra⟩
        | none =>
            -- No more steps than there are positions lead further.
            obtain ⟨m', le, extra⟩ := extra.shorten
            have inText := extra.forwards.2 (steps.forwards.2 (inside i here))
            exact ⟨m', show m' ≤ text.size + 1 by omega, extra⟩

end

/-! ## Expressions -/

mutual
/-- From positions in the text the expression leads to those that it spans the text up to. -/
theorem leads_advance : (e : Expr) → Leads text (advance text e) e
  | .empty, ps, _, j => by
      rw [advance]
      constructor
      · exact fun here => ⟨j, here, .empty j⟩
      · rintro ⟨i, here, ⟨⟩⟩
        exact here
  | .set s, ps, _, j => by
      simp only [advance, List.mem_map, List.mem_filter, Option.any_eq_true]
      constructor
      · rintro ⟨i, ⟨here, c, found, member⟩, rfl⟩
        exact ⟨i, here, .set found member⟩
      · rintro ⟨i, here, spans⟩
        cases spans with
        | set found member => exact ⟨i, ⟨here, _, found, member⟩, rfl⟩
  | .look l, ps, _, j => by
      rw [advance, List.mem_filter]
      constructor
      · exact fun ⟨here, holds⟩ => ⟨j, here, .look holds⟩
      · rintro ⟨i, here, spans⟩
        cases spans with
        | look holds => exact ⟨here, holds⟩
  | .capture e, ps, inside, j => by
      rw [advance, leads_advance e ps inside]
      constructor
      · exact fun ⟨i, here, inner⟩ => ⟨i, here, .capture inner⟩
      · rintro ⟨i, here, spans⟩
        cases spans with
        | capture inner => exact ⟨i, here, inner⟩
  | .sequence es, ps, inside, j => by
      rw [advance, mem_advanceAll es ps inside]
      constructor
      · exact fun ⟨i, here, inner⟩ => ⟨i, here, .sequence inner⟩
      · rintro ⟨i, here, spans⟩
        cases spans with
        | sequence inner => exact ⟨i, here, inner⟩
  | .choice es, ps, inside, j => by
      rw [advance, mem_advanceAny es ps inside]
      constructor
      · exact fun ⟨i, here, e, member, inner⟩ => ⟨i, here, .choice member inner⟩
      · rintro ⟨i, here, spans⟩
        cases spans with
        | choice member inner => exact ⟨i, here, _, member, inner⟩
  | .iterate least most e, ps, inside, j => by
      have repeated := (leads_advance e).iterate least most ps inside j
      cases most <;> exact repeated

theorem mem_advanceAll : (es : List Expr) → (ps : Positions) → Inside text ps → (j : Nat) →
    (j ∈ advanceAll text es ps ↔ ∃ i ∈ ps, SpansAll text es i j)
  | [], ps, _, j => by simp [advanceAll, spansAll_nil]
  | e :: es, ps, inside, j => by
      have first := leads_advance e
      rw [advanceAll, mem_advanceAll es _ (first.inside inside)]
      simp only [first ps inside, spansAll_cons]
      constructor
      · rintro ⟨k, ⟨i, here, spans⟩, rest⟩
        exact ⟨i, here, k, spans, rest⟩
      · rintro ⟨i, here, k, spans, rest⟩
        exact ⟨k, ⟨i, here, spans⟩, rest⟩

theorem mem_advanceAny : (es : List Expr) → (ps : Positions) → Inside text ps → (j : Nat) →
    (j ∈ advanceAny text es ps ↔ ∃ i ∈ ps, ∃ e ∈ es, Spans text e i j)
  | [], ps, _, j => by simp [advanceAny]
  | e :: es, ps, inside, j => by
      rw [advanceAny, mem_merge, leads_advance e ps inside, mem_advanceAny es ps inside]
      constructor
      · rintro (⟨i, here, spans⟩ | ⟨i, here, e', member, spans⟩)
        · exact ⟨i, here, e, List.mem_cons_self, spans⟩
        · exact ⟨i, here, e', List.mem_cons_of_mem e member, spans⟩
      · rintro ⟨i, here, e', member, spans⟩
        rcases List.mem_cons.mp member with rfl | member
        · exact .inl ⟨i, here, spans⟩
        · exact .inr ⟨i, here, e', member, spans⟩
end

/-- The expression spans the text from its start to its end. -/
def Expr.Matches (e : Expr) (text : String) : Prop := Spans text.toList.toArray e 0 text.length

theorem occursIn_iff {e : Expr} {value : String} : e.occursIn value = true ↔
    ∃ i ≤ value.toList.toArray.size, ∃ j, Spans value.toList.toArray e i j := by
  have inside : Inside value.toList.toArray (List.range (value.toList.toArray.size + 1)) :=
    fun i here => Nat.le_of_lt_succ (List.mem_range.mp here)
  have leads := leads_advance e _ inside
  have somewhere : e.occursIn value = true ↔
      ∃ j, j ∈ advance value.toList.toArray e (List.range (value.toList.toArray.size + 1)) := by
    rw [Expr.occursIn, Bool.not_eq_true', List.isEmpty_eq_false_iff_exists_mem]
  rw [somewhere]
  constructor
  · rintro ⟨j, reached⟩
    obtain ⟨i, here, spans⟩ := (leads j).mp reached
    exact ⟨i, inside i here, j, spans⟩
  · rintro ⟨i, le, j, spans⟩
    exact ⟨j, (leads j).mpr ⟨i, List.mem_range.mpr (Nat.lt_succ_of_le le), spans⟩⟩

theorem spans_look {l : Look} {i j : Nat} : Spans text (.look l) i j ↔ i = j ∧ l.holds text i = true := by
  constructor
  · rintro ⟨⟩
    next holds => exact ⟨rfl, holds⟩
  · rintro ⟨rfl, holds⟩
    exact .look holds

/-- Between the marks for the start and the end an expression spans all of the text. -/
theorem spans_anchored {e : Expr} {i j : Nat} :
    Spans text (.sequence [.look .textStart, e, .look .textEnd]) i j ↔
      i = 0 ∧ j = text.size ∧ Spans text e 0 text.size := by
  have parts : Spans text (.sequence [.look .textStart, e, .look .textEnd]) i j ↔
      SpansAll text [.look .textStart, e, .look .textEnd] i j :=
    ⟨fun spans => by cases spans with | sequence inner => exact inner, .sequence⟩
  have start : Look.holds text i .textStart = true ↔ i = 0 := beq_iff_eq
  have finish : ∀ k, Look.holds text k .textEnd = true ↔ k = text.size := fun k => beq_iff_eq
  simp only [parts, spansAll_cons, spansAll_nil, spans_look, start, finish]
  constructor
  · rintro ⟨_, ⟨rfl, rfl⟩, k, spans, _, ⟨rfl, rfl⟩, rfl⟩
    exact ⟨rfl, rfl, spans⟩
  · rintro ⟨rfl, rfl, spans⟩
    exact ⟨0, ⟨rfl, rfl⟩, text.size, spans, text.size, ⟨rfl, rfl⟩, rfl⟩

theorem occursIn_anchored (e : Expr) (value : String) :
    (Expr.sequence [.look .textStart, e, .look .textEnd]).occursIn value = true ↔ e.Matches value := by
  have size : value.toList.toArray.size = value.length := by
    rw [List.size_toArray, String.length_toList]
  rw [occursIn_iff, Expr.Matches, ← size]
  simp only [spans_anchored]
  constructor
  · rintro ⟨i, -, j, -, -, spans⟩
    exact spans
  · exact fun spans => ⟨0, Nat.zero_le _, _, rfl, rfl, spans⟩

end HeatStack.Regex

namespace HeatStack.Template
open HeatStack.Regex

/-- A clause with a pattern gives a constraint if the pattern within its group is an expression. -/
theorem fullMatch?_of_mem {clauses : List Yaml.Value} {pattern description : String}
    (kept : .allowedPattern pattern description ∈ Constraint.ofValues clauses) :
    ∃ e, Constraint.fullMatch? pattern = some e := by
  obtain ⟨clause, -, read⟩ := List.mem_filterMap.mp kept
  obtain ⟨c, -, made⟩ := Option.bind_eq_some_iff.mp read
  unfold Constraint.Clause.constraint? at made
  dsimp only at made
  split at made
  case h_6 =>
    obtain ⟨e, full, same⟩ := Option.map_eq_some_iff.mp made
    cases same
    exact ⟨e, full⟩
  all_goals cases made

/-- A pattern that is kept and valid alone admits the values that it matches from start to end. -/
theorem allowedPattern_admits_iff {clauses : List Yaml.Value} {pattern description : String} {e : Expr}
    (kept : .allowedPattern pattern description ∈ Constraint.ofValues clauses)
    (valid : Expr.parse? pattern = some e) (type : ValueType) (value : String) :
    (Constraint.allowedPattern pattern description).admits type value = true ↔ e.Matches value := by
  obtain ⟨e', full⟩ := fullMatch?_of_mem kept
  cases fullMatch?_valid valid full
  rw [Constraint.admits, full]
  exact occursIn_anchored e value

/-- Lines within a value do not count: flags of the pattern do not reach the marks around it. -/
theorem allowedPattern_admits_line :
    ∃ e, Expr.parse? "(?m)^a$|b+?c" = some e ∧ e.Matches "bc" ∧ ¬ e.Matches "a\nbc" := by
  have read : (Expr.parse? "(?m)^a$|b+?c").isSome = true := by decide +kernel
  obtain ⟨e, valid⟩ := Option.isSome_iff_exists.mp read
  have kept : .allowedPattern "(?m)^a$|b+?c" "must match pattern (?m)^a$|b+?c" ∈
      Constraint.ofValues [patternEntry "(?m)^a$|b+?c"] := by decide +kernel
  refine ⟨e, valid, ?_, fun both => ?_⟩
  · exact (allowedPattern_admits_iff kept valid .string "bc").mp (by decide +kernel)
  · have admitted := (allowedPattern_admits_iff kept valid .json "a\nbc").mpr both
    exact absurd admitted (by decide +kernel)

end HeatStack.Template
