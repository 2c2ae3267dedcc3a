import HeatStack.Proofs.GroupReading

/-! # Phrases

Alternatives, rows and bracketed sets are read by four functions that call one another.  They are taken
together as one (`Phrase.read`), each call of which has less to read than the step that makes it, so that
the fuel that it is given does not matter (`grammar`). -/
set_option autoImplicit false
namespace HeatStack.Regex
open HeatStack.Text HeatStack.Unicode

variable {α β : Type}

theorem Takes.opening : Takes opening := (reads_opening (Q := fun _ => True)).takes

theorem Takes.groupOpening : Takes groupOpening := reads_groupOpening.anywhere

theorem Takes.asciiClassHere : Takes asciiClassHere := reads_asciiClass.anywhere

theorem Takes.primitive : Takes primitive := .of_advances primitive_advances

theorem Takes.setRange : Takes setRange := .of_advances setRange_advances

theorem Takes.repetition (c : Char) : Takes (repetition c) :=
  .bind .bump fun _ => (reads_repetitionFrom c).anywhere

/-- What is read: alternatives behind some that are read, a row behind some parts, or a bracketed set,
from its start or behind some members. -/
inductive Phrase
  | alternatives (done : List Part)
  | row (parts : List (Option Part))
  | brackets
  | members (negated : Bool) (pending : Option Pending) (u : Union)

namespace Phrase

abbrev Result : Phrase → Type
  | .alternatives _ => Part
  | .row _ => Part
  | .brackets => CharSet × Nat
  | .members .. => CharSet × Nat

def read (fuel : Nat) : (i : Phrase) → Parse i.Result
  | .alternatives done => Regex.alternatives fuel done
  | .row parts => Regex.row fuel parts
  | .brackets => bracketed fuel
  | .members negated pending u => Regex.members fuel negated pending u

section
variable (more : (i : Phrase) → Parse i.Result)

def stepAlternatives (done : List Part) : Parse Part := do
  let p ← more (.row [])
  if (← peek) == some '|' then
    bump
    more (.alternatives (p :: done))
  else return choicePart (p :: done).reverse

def stepGroup (parts : List (Option Part)) : Parse Part := do
  bump
  let outer ← flags
  match ← groupOpening with
  | .directive => more (.row (none :: parts))
  | .group capturing =>
    let p ← more (.alternatives [])
    expect ')'
    setFlags outer
    more (.row (some ⟨if capturing then .capture p.expr else p.expr, p.depth + 1⟩ :: parts))

def stepSet (parts : List (Option Part)) : Parse Part := do
  bump
  let set ← more .brackets
  more (.row (some ⟨.set set.1, set.2 + 1⟩ :: parts))

def stepRepetition (c : Char) (parts : List (Option Part)) : Parse Part :=
  match parts with
  | some p :: before => do
    let b ← repetition c
    more (.row (some ⟨iterateExpr b p.expr, p.depth + 1⟩ :: before))
  | _ => failure

def stepPrimitive (parts : List (Option Part)) : Parse Part := do
  let e ← primitive
  more (.row (some ⟨e, 0⟩ :: parts))

def stepRow (parts : List (Option Part)) : Parse Part := do
  skipSpace
  match ← peek with
  | none => return sequencePart parts.reverse
  | some c =>
    if c = '|' ∨ c = ')' then return sequencePart parts.reverse
    else if c = '(' then stepGroup more parts
    else if c = '[' then stepSet more parts
    else if c = '?' ∨ c = '*' ∨ c = '+' ∨ c = '\x7b' then stepRepetition more c parts
    else stepPrimitive more parts

def stepBrackets : Parse (CharSet × Nat) := do
  let opened ← opening
  more (.members opened.1 none opened.2)

def stepNested (negated : Bool) (pending : Option Pending) (u : Union) : Parse (CharSet × Nat) := do
  match ← asciiClassHere with
  | some s => more (.members negated pending (u.add s 0))
  | none =>
    bump
    let set ← more .brackets
    more (.members negated pending (u.add set.1 (set.2 + 1)))

def stepClose (f : Flags) (negated : Bool) (pending : Option Pending) (u : Union) :
    Parse (CharSet × Nat) := do
  bump
  let s ← (finish f negated (settle f pending u).1 : Option CharSet)
  return (s, (settle f pending u).2)

def stepOperator (f : Flags) (negated : Bool) (pending : Option Pending) (u : Union) (op? : Option SetOp) :
    Parse (CharSet × Nat) := do
  match op? with
  | some op =>
    bump
    bump
    more (.members negated (some ⟨op, (settle f pending u).1, (settle f pending u).2⟩) .empty)
  | none =>
    let s ← setRange
    more (.members negated pending (u.add s 0))

def stepMember (f : Flags) (negated : Bool) (pending : Option Pending) (u : Union) :
    Parse (CharSet × Nat) := do
  let s ← get
  stepOperator more f negated pending u (setOp? s.rest)

def stepMembers (negated : Bool) (pending : Option Pending) (u : Union) : Parse (CharSet × Nat) := do
  skipSpace
  let f ← flags
  match ← peek with
  | none => failure
  | some c =>
    if c = '[' then stepNested more negated pending u
    else if c = ']' then stepClose f negated pending u
    else stepMember more f negated pending u

def step : (i : Phrase) → Parse i.Result
  | .alternatives done => stepAlternatives more done
  | .row parts => stepRow more parts
  | .brackets => stepBrackets more
  | .members negated pending u => stepMembers more negated pending u

end

/-- Twice the rest, and one more for what hands all of it on. -/
def cost : Phrase → State → Nat
  | .alternatives _, s => 2 * s.rest.length + 1
  | .row _, s => 2 * s.rest.length
  | .brackets, s => 2 * s.rest.length + 1
  | .members .., s => 2 * s.rest.length

theorem read_succ (n : Nat) (i : Phrase) : read (n + 1) i = step (read n) i := by
  cases i with
  | alternatives done => rfl
  | row parts =>
      refine bind_congr fun _ => bind_congr fun c? => ?_
      cases c? with
      | none => rfl
      | some c =>
          dsimp only
          split
          · next found => cases found
          · next found => cases found; rfl
          · next found => cases found; rfl
          · next found => cases found; rfl
          · next found => cases found; rfl
          · next d bar close paren bracket found =>
            cases found
            have inside : ¬ (c = '|' ∨ c = ')') := fun ends => ends.elim bar close
            rw [if_neg inside, if_neg paren, if_neg bracket]
            rfl
  | brackets => rfl
  | members negated pending u =>
      refine bind_congr fun _ => bind_congr fun f => bind_congr fun c? => ?_
      cases c? with
      | none => rfl
      | some c =>
          dsimp only
          split
          · next found => cases found
          · next found => cases found; rfl
          · next found => cases found; rfl
          · next d bracket close found =>
            cases found
            rw [if_neg bracket, if_neg close]
            rfl

variable {more more' : (i : Phrase) → Parse i.Result}

theorem takes_step (takes : ∀ j, Takes (more j)) (i : Phrase) : Takes (step more i) := by
  cases i with
  | alternatives done =>
      exact .bind (takes _) fun p => .bind .peek fun _ => .ite (.bind .bump fun _ => takes _) (.pure _)
  | row parts =>
      refine .bind .skipSpace fun _ => .step (.pure _) fun c => ?_
      refine .ite (.pure _) (.ite ?_ (.ite ?_ (.ite ?_ ?_)))
      · refine .bind .bump fun _ => .bind .flags fun outer => .bind .groupOpening fun opened => ?_
        cases opened with
        | directive => exact takes _
        | group capturing =>
            exact .bind (takes _) fun p => .bind (.expect _) fun _ => .bind (.setFlags _) fun _ => takes _
      · exact .bind .bump fun _ => .bind (takes _) fun set => takes _
      · cases parts with
        | nil => exact .failure
        | cons part before =>
            cases part with
            | none => exact .failure
            | some p => exact .bind (.repetition c) fun b => takes _
      · exact .bind .primitive fun e => takes _
  | brackets => exact .bind .opening fun opened => takes _
  | members negated pending u =>
      refine .bind .skipSpace fun _ => .bind .flags fun f => .step .failure fun c => ?_
      refine .ite ?_ (.ite ?_ ?_)
      · refine .bind .asciiClassHere fun set? => ?_
        cases set? with
        | none => exact .bind .bump fun _ => .bind (takes _) fun set => takes _
        | some set => exact takes _
      · exact .bind .bump fun _ => .bind (.lift _) fun _ => .pure _
      · refine .bind .get fun s => ?_
        cases setOp? s.rest with
        | some op => exact .bind .bump fun _ => .bind .bump fun _ => takes _
        | none => exact .bind .setRange fun set => takes _

theorem cost_lt {j : Phrase} {s : State} {k : Nat} (less : s.rest.length < k) : j.cost s < 2 * k := by
  cases j <;> simp only [cost] <;> omega

theorem stepAlternatives_congr {done : List Part} {s : State} (takes : ∀ j, Takes (more j))
    (same : ∀ j s', cost j s' < cost (.alternatives done) s → more j s' = more' j s') :
    stepAlternatives more done s = stepAlternatives more' done s := by
  refine bind_congr_both (same _ _ (Nat.lt_succ_self _)) fun p s' read => ?_
  refine peek_congr rfl fun c cs rest => ?_
  split
  · refine bind_congr_at fun _ s'' bumped => same _ _ ?_
    have less := (bump_advances rest).length_lt bumped
    exact (cost_lt (Nat.lt_of_lt_of_le less ((takes _).length_le read))).trans (Nat.lt_succ_self _)
  · rfl

theorem stepGroup_congr {parts : List (Option Part)} {s : State} {c : Char} {cs : List Char}
    (rest : s.rest = c :: cs) (takes : ∀ j, Takes (more j))
    (same : ∀ j s', s'.rest.length < s.rest.length → more j s' = more' j s') :
    stepGroup more parts s = stepGroup more' parts s := by
  refine bind_congr_at fun _ s' bumped => bind_congr_at fun outer s'' got => ?_
  have less := (bump_advances rest).length_lt bumped
  have less := Nat.lt_of_le_of_lt (Takes.flags.length_le got) less
  refine bind_congr_at fun opened s₁ read => ?_
  have less := Nat.lt_of_le_of_lt (Takes.groupOpening.length_le read) less
  cases opened with
  | directive => exact same _ _ less
  | group capturing =>
      refine bind_congr_both (same _ _ less) fun p s₂ read => bind_congr_at fun _ s₃ closed => ?_
      have less := Nat.lt_of_le_of_lt ((takes _).length_le read) less
      have less := Nat.lt_of_le_of_lt ((Takes.expect _).length_le closed) less
      refine bind_congr_at fun _ s₄ set => same _ _ ?_
      exact Nat.lt_of_le_of_lt ((Takes.setFlags _).length_le set) less

theorem brackets_congr {f g : CharSet × Nat → Parse β} {s : State} {c : Char} {cs : List Char}
    (rest : s.rest = c :: cs) (takes : ∀ j, Takes (more j))
    (same : ∀ j s', s'.rest.length < s.rest.length → more j s' = more' j s')
    (later : ∀ set s', s'.rest.length < s.rest.length → f set s' = g set s') :
    (bump >>= fun _ => more .brackets >>= f) s = (bump >>= fun _ => more' .brackets >>= g) s := by
  refine bind_congr_at fun _ s' bumped => ?_
  have less := (bump_advances rest).length_lt bumped
  refine bind_congr_both (same _ _ less) fun set s'' read => later set s'' ?_
  exact Nat.lt_of_le_of_lt ((takes _).length_le read) less

theorem stepRow_congr {parts : List (Option Part)} {s : State} (takes : ∀ j, Takes (more j))
    (same : ∀ j s', s'.rest.length < s.rest.length → more j s' = more' j s') :
    stepRow more parts s = stepRow more' parts s := by
  refine bind_congr_at fun _ s₁ skipped => ?_
  have same : ∀ j s', s'.rest.length < s₁.rest.length → more j s' = more' j s' := fun j s' less =>
    same j s' (Nat.lt_of_lt_of_le less (Takes.skipSpace.length_le skipped))
  refine peek_congr rfl fun c cs rest => ?_
  dsimp only
  split_ifs
  · rfl
  · exact stepGroup_congr rest takes same
  · exact brackets_congr rest takes same fun set s' less => same _ s' less
  · cases parts with
    | nil => rfl
    | cons part before =>
        cases part with
        | none => rfl
        | some p =>
            refine bind_congr_at fun b s' read => same _ _ ?_
            exact (repetition_advances c ⟨_, _, rest⟩).length_lt read
  · exact bind_congr_at fun e s' read => same _ _ ((primitive_advances s₁).length_lt read)

theorem stepNested_congr {negated : Bool} {pending : Option Pending} {u : Union} {s : State}
    {c : Char} {cs : List Char} (rest : s.rest = c :: cs) (takes : ∀ j, Takes (more j))
    (same : ∀ j s', s'.rest.length < s.rest.length → more j s' = more' j s') :
    stepNested more negated pending u s = stepNested more' negated pending u s := by
  refine bind_congr_at fun set? s' read => ?_
  cases set? with
  | some set => exact same _ _ (asciiClassHere_some read)
  | none =>
      rcases asciiClassHere_none read with rfl
      exact brackets_congr rest takes same fun set s' less => same _ s' less

theorem stepMember_congr {f : Flags} {negated : Bool} {pending : Option Pending} {u : Union}
    {s : State} {c : Char} {cs : List Char} (rest : s.rest = c :: cs)
    (same : ∀ j s', s'.rest.length < s.rest.length → more j s' = more' j s') :
    stepMember more f negated pending u s = stepMember more' f negated pending u s := by
  refine bind_congr_at fun here s' got => ?_
  cases got
  cases setOp? s.rest with
  | none => exact bind_congr_at fun set s' read => same _ _ ((setRange_advances _).length_lt read)
  | some op =>
      refine bind_congr_at fun _ s₁ bumped => bind_congr_at fun _ s₂ again => same _ _ ?_
      exact Nat.lt_of_le_of_lt (Takes.bump.length_le again) ((bump_advances rest).length_lt bumped)

theorem stepMembers_congr {negated : Bool} {pending : Option Pending} {u : Union} {s : State}
    (takes : ∀ j, Takes (more j))
    (same : ∀ j s', s'.rest.length < s.rest.length → more j s' = more' j s') :
    stepMembers more negated pending u s = stepMembers more' negated pending u s := by
  refine bind_congr_at fun _ s₁ skipped => bind_congr_at fun f s₂ got => ?_
  have same : ∀ j s', s'.rest.length < s₂.rest.length → more j s' = more' j s' := by
    intro j s' less
    refine same j s' (Nat.lt_of_lt_of_le less ?_)
    exact Nat.le_trans (Takes.flags.length_le got) (Takes.skipSpace.length_le skipped)
  refine peek_congr rfl fun c cs rest => ?_
  dsimp only
  split_ifs
  · exact stepNested_congr rest takes same
  · rfl
  · exact stepMember_congr rest same

end Phrase

def grammar : Fueled Phrase Phrase.Result where
  run := Phrase.read
  step := Phrase.step
  cost := Phrase.cost
  run_succ := Phrase.read_succ
  takes_zero i := by cases i <;> exact .failure
  takes_step m takes := Phrase.takes_step takes
  guarded m m' i s takes same := by
    cases i with
    | alternatives done => exact Phrase.stepAlternatives_congr takes same
    | row parts =>
        exact Phrase.stepRow_congr takes fun j s' less => same j s' (Phrase.cost_lt less)
    | brackets =>
        refine bind_congr_at fun opened s' read => same _ _ ?_
        exact Nat.lt_succ_of_le (Nat.mul_le_mul_left 2 (Takes.opening.length_le read))
    | members negated pending u =>
        exact Phrase.stepMembers_congr takes fun j s' less => same j s' (Phrase.cost_lt less)

theorem Advances.of_peek {f : Option Char → Parse α} {s : State} (ends : f none s = none)
    (here : ∀ c cs, s.rest = c :: cs → Advances (f (some c)) s) : Advances (peek >>= f) s := by
  intro r read
  obtain ⟨c?, s', got, read⟩ := bind_eq_some.mp read
  cases got
  cases rest : s.rest with
  | nil =>
      rw [rest, List.head?_nil, ends] at read
      cases read
  | cons c cs =>
      rw [rest] at read
      exact rest ▸ here c cs rest r read

theorem stepMember_advances {more : (i : Phrase) → Parse i.Result} (takes : ∀ j, Takes (more j))
    {s : State} {c : Char} {cs : List Char} (rest : s.rest = c :: cs) (f : Flags) (negated : Bool)
    (pending : Option Pending) (u : Union) :
    Advances (Phrase.stepMember more f negated pending u) s := by
  refine Takes.get.advances fun here s' got => ?_
  cases got
  cases setOp? s.rest with
  | none => exact (setRange_advances s).bind fun _ => takes _
  | some op => exact (bump_advances rest).bind fun _ => .bind .bump fun _ => takes _

/-- The rest of a set has a bracket at least. -/
theorem members_advances (negated : Bool) (pending : Option Pending) (u : Union) (s : State) :
    Advances (grammar.whole (.members negated pending u)) s := by
  have takes := grammar.takes_whole
  intro r read
  rw [grammar.whole_eq] at read
  refine Takes.skipSpace.advances (fun _ s₁ _ => Takes.flags.advances fun f s₂ _ => ?_) r read
  refine .of_peek rfl fun c cs rest => ?_
  dsimp only
  split_ifs
  · intro r read
    obtain ⟨set?, s', here, later⟩ := bind_eq_some.mp read
    cases set? with
    | some set =>
        rcases asciiClassHere_cases here with found | ⟨-, c, cs, rest, suffix⟩
        · cases found
        · exact ⟨c, cs, rest, (takes _ _ _ later).trans suffix⟩
    | none =>
        cases asciiClassHere_none here
        refine (bump_advances rest).bind (fun _ => ?_) r later
        exact .bind (takes .brackets) fun set => takes (.members negated pending (u.add set.1 _))
  · exact (bump_advances rest).bind fun _ => .bind (.lift _) fun _ => .pure _
  · exact stepMember_advances takes rest f negated pending u

end HeatStack.Regex
