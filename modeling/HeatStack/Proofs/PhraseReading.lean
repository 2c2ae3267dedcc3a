import HeatStack.Proofs.PhraseSteps

/-! # Phrases with a closing parenthesis behind

The reader of phrases reads the same with a closing parenthesis behind a pattern, or it comes past it
(`reads_phrase`): a step does, if the calls that it makes do, and they have less to read. -/
set_option autoImplicit false
namespace HeatStack.Regex
open HeatStack.Text HeatStack.Unicode

variable {α β : Type} {loose : Bool} {Q : State → Prop}

/-! ## What is left -/

/-- Less than `k` characters are left. -/
def Shorter (k : Nat) (s : State) : Prop := s.rest.length < k

namespace Reads

/-- What takes something or nothing leaves no more. -/
theorem bind_shorter {k : Nat} {x : Parse α} {f : α → Parse β} (first : Reads loose (Shorter k) x)
    (later : ∀ a, Reads loose (Shorter k) (f a)) : Reads loose (Shorter k) (x >>= f) :=
  .bind first fun a => (later a).weaken fun _ ⟨_, short, read⟩ =>
    Nat.lt_of_le_of_lt (first.takes.length_le read) short

/-- What takes a character leaves less. -/
theorem bind_fewer {k : Nat} {x : Parse α} {f : α → Parse β} (first : Reads loose Q x)
    (most : ∀ s, Q s → s.rest.length ≤ k) (advances : ∀ s, Q s → Advances x s)
    (later : ∀ a, Reads loose (Shorter k) (f a)) : Reads loose Q (x >>= f) :=
  .bind first fun a => (later a).weaken fun _ ⟨s, here, read⟩ =>
    Nat.lt_of_lt_of_le ((advances s here).length_lt read) (most s here)

end Reads

theorem bump_at {c : Char} (s : State) (here : At Q c s) : Advances bump s :=
  let ⟨_, _, rest⟩ := here
  bump_advances rest

/-! ## Rows -/

theorem skipSpace_brace {s : State} {cs : List Char} (rest : s.rest = '\x7b' :: cs) :
    skipSpace s = some ((), s) := by
  have stays : ∀ fuel, dropVerbose fuel ('\x7b' :: cs) = '\x7b' :: cs := by
    intro fuel
    cases fuel <;> rfl
  unfold skipSpace
  rw [rest, stays, ← rest]
  cases s.flags.verbose <;> rfl

/-- Behind a look that left an open brace, the row goes on with a repetition. -/
theorem row_beyond {u : State} {e : Expr} {parts : List (Option Part)} (brace : OpenBrace u)
    {r : List Char} {y : Part × State}
    (read : grammar.whole (.row (some ⟨e, 0⟩ :: parts)) (u.closed r) = some y) : y.2.rest <:+ r := by
  have ⟨cs, _, rest, _, _⟩ := brace
  have closed : (u.closed r).rest = '\x7b' :: (cs ++ ')' :: r) := by
    rw [State.closed, rest]
    rfl
  have repeats : grammar.whole (.row (some ⟨e, 0⟩ :: parts)) (u.closed r) =
      Phrase.stepRepetition grammar.whole '\x7b' (some ⟨e, 0⟩ :: parts) (u.closed r) := by
    rw [grammar.whole_eq]
    change (skipSpace >>= fun _ => peek >>= _) (u.closed r) = _
    rw [bind_run, skipSpace_brace closed, Option.bind_some, bind_run, peek, closed]
    rfl
  rw [repeats] at read
  obtain ⟨b, s', bounded, later⟩ := bind_eq_some.mp read
  exact (grammar.takes_whole (.row _) s' y later).trans (repetition_beyond brace bounded)

theorem setOp?_closed (cs r : List Char) : setOp? (cs ++ ')' :: r) = setOp? cs := by
  match cs with
  | [] => rfl
  | [a] =>
      unfold setOp?
      split <;> split <;> simp_all
  | a :: b :: cs =>
      unfold setOp?
      split <;> split <;> simp_all

theorem setOp?_some {cs : List Char} {op : SetOp} (found : setOp? cs = some op) :
    ∃ a b r, cs = a :: b :: r := by
  unfold setOp? at found
  split at found
  · exact ⟨_, _, _, rfl⟩
  · exact ⟨_, _, _, rfl⟩
  · exact ⟨_, _, _, rfl⟩
  · cases found

section
variable {k : Nat} (most : ∀ s, Q s → s.rest.length ≤ k)
  (more : ∀ j, Reads false (Shorter k) (grammar.whole j))
include most more

theorem reads_stepGroup {c : Char} (parts : List (Option Part)) :
    Reads false (At Q c) (Phrase.stepGroup grammar.whole parts) := by
  refine .bind_fewer (.bump At.filled) (fun s here => most s here.1) bump_at fun _ => ?_
  refine .bind_shorter .flags fun outer => .bind_shorter reads_groupOpening fun opened => ?_
  cases opened with
  | directive => exact more _
  | group capturing =>
      refine .bind_shorter (more _) fun p => .bind_shorter (.expect _) fun _ => ?_
      exact .bind_shorter (.setFlags _) fun _ => more _

theorem reads_brackets {c : Char} {f : CharSet × Nat → Parse α}
    (later : ∀ set, Reads false (Shorter k) (f set)) :
    Reads false (At Q c) (bump >>= fun _ => grammar.whole .brackets >>= f) :=
  .bind_fewer (.bump At.filled) (fun s here => most s here.1) bump_at fun _ =>
    .bind_shorter (more .brackets) later

theorem reads_stepRepetition {c : Char} (parts : List (Option Part)) :
    Reads false (At Q c) (Phrase.stepRepetition grammar.whole c parts) := by
  cases parts with
  | nil => exact .failure
  | cons part before =>
      cases part with
      | none => exact .failure
      | some p =>
          refine .bind_fewer (reads_repetition At.filled) (fun s here => most s here.1) ?_ fun b => more _
          exact fun s here => repetition_advances c (At.filled s here)

theorem reads_stepPrimitive {c : Char} (parts : List (Option Part)) :
    Reads false (At Q c) (Phrase.stepPrimitive grammar.whole parts) := by
  refine nearly_primitive.reads_bind (fun e => (more _).weaken ?_) fun e u r y _ brace read => ?_
  · rintro s' ⟨s, here, read⟩
    exact Nat.lt_of_lt_of_le ((primitive_advances s).length_lt read) (most s here.1)
  · exact row_beyond brace read

theorem reads_stepRow (parts : List (Option Part)) :
    Reads false Q (Phrase.stepRow grammar.whole parts) := by
  have most : ∀ s', After Q skipSpace () s' → s'.rest.length ≤ k := by
    rintro s' ⟨s, here, skipped⟩
    exact (Takes.skipSpace.length_le skipped).trans (most s here)
  refine .bind .skipSpace fun _ => .peek_same rfl (.pure _) fun c => ?_
  refine .ite (.pure _) (.ite ?_ (.ite ?_ (.ite ?_ ?_)))
  · exact reads_stepGroup most more parts
  · exact reads_brackets most more fun set => more _
  · exact reads_stepRepetition most more parts
  · exact reads_stepPrimitive most more parts

/-! ## Members of sets -/

theorem reads_stepNested {c : Char} (negated : Bool) (pending : Option Pending) (u : Union) :
    Reads false (At Q c) (Phrase.stepNested grammar.whole negated pending u) := by
  refine .bind reads_asciiClass fun set? => ?_
  cases set? with
  | some set =>
      refine (more _).weaken fun s' ⟨s, here, read⟩ => ?_
      exact Nat.lt_of_lt_of_le (asciiClassHere_some read) (most s here.1)
  | none =>
      have nested : Reads false (At Q c) (do
          bump
          let set ← grammar.whole .brackets
          grammar.whole (.members negated pending (u.add set.1 (set.2 + 1)))) :=
        reads_brackets most more fun set => more (.members negated pending _)
      refine nested.weaken fun s' ⟨s, here, read⟩ => ?_
      cases asciiClassHere_none read
      exact here

theorem reads_stepOperator {c : Char} (f : Flags) (negated : Bool) (pending : Option Pending) (u : Union)
    (op? : Option SetOp) : Reads false (fun s => At Q c s ∧ setOp? s.rest = op?)
      (Phrase.stepOperator grammar.whole f negated pending u op?) := by
  cases op? with
  | none =>
      refine .bind_advances reads_setRange (fun s => members_advances _ _ _) fun s => (more _).weaken ?_
      rintro s' ⟨s, ⟨here, -⟩, read⟩
      exact Nat.lt_of_lt_of_le ((setRange_advances s).length_lt read) (most s here.1)
  | some op =>
      refine .bind (.bump fun s here => At.filled s here.1) fun _ => .bind (.bump ?_) fun _ => (more _).weaken ?_
      · rintro s' ⟨s, ⟨-, found⟩, bumped⟩
        obtain ⟨a, b, r, rest⟩ := setOp?_some found
        cases bumped
        exact ⟨b, r, by rw [rest]; rfl⟩
      · rintro s'' ⟨s', ⟨s, ⟨here, -⟩, bumped⟩, again⟩
        have less := (bump_at s here).length_lt bumped
        exact Nat.lt_of_le_of_lt (Takes.bump.length_le again) (Nat.lt_of_lt_of_le less (most s here.1))

theorem reads_stepMember {c : Char} (f : Flags) (negated : Bool) (pending : Option Pending) (u : Union) :
    Reads false (At Q c) (Phrase.stepMember grammar.whole f negated pending u) := by
  have reads := reads_stepOperator most more (c := c) f negated pending u
  refine ⟨.bind .get fun s => (reads _).takes, fun s here => ?_⟩
  have alike : ∀ r, setOp? (s.closed r).rest = setOp? s.rest := setOp?_closed s.rest
  have run : ∀ t, Phrase.stepMember grammar.whole f negated pending u t =
      Phrase.stepOperator grammar.whole f negated pending u (setOp? t.rest) t := fun _ => rfl
  simp only [run, alike]
  exact (reads _).near s ⟨here, rfl⟩

theorem reads_stepMembers (negated : Bool) (pending : Option Pending) (u : Union) :
    Reads false Q (Phrase.stepMembers grammar.whole negated pending u) := by
  have most : ∀ f s', After (After Q skipSpace ()) flags f s' → s'.rest.length ≤ k := by
    rintro f s' ⟨s₁, ⟨s, here, skipped⟩, got⟩
    exact (Takes.flags.length_le got).trans ((Takes.skipSpace.length_le skipped).trans (most s here))
  refine .bind .skipSpace fun _ => .bind .flags fun f => .peek .failure (fun s _ ends => ?_) fun c => ?_
  · refine .of_advances ends rfl fun r => ?_
    exact stepMember_advances grammar.takes_whole (closed_rest ends r) f negated pending u
  refine .ite ?_ (.ite ?_ ?_)
  · exact reads_stepNested (most f) more negated pending u
  · exact .bind (.bump At.filled) fun _ => .bind (.lift _) fun s => .pure _
  · exact reads_stepMember (most f) more f negated pending u

end

/-- Every part of the reader reads the same with a parenthesis behind, or comes past it. -/
theorem reads_phrase (i : Phrase) : Reads false Q (grammar.whole i) := by
  refine grammar.reads_whole (fun i n more => ?_) i
  -- `n` is what `i` costs, twice what is left to read or one more.
  have half : ∀ {k}, 2 * k = n → k ≤ n / 2 := fun same => by omega
  have shorter : ∀ j, Reads false (Shorter (n / 2)) (grammar.whole j) := by
    refine fun j => (more j).weaken fun s less => ?_
    exact Nat.lt_of_lt_of_le (Phrase.cost_lt less) (Nat.mul_div_le n 2)
  cases i with
  | alternatives done =>
      have row : Reads false (fun s => grammar.cost (.alternatives done) s = n) (grammar.whole (.row [])) :=
        (more _).weaken fun s same => same ▸ Nat.lt_succ_self _
      refine .bind row fun p => .peek_ite (by decide) ?_ (.pure _)
      refine .bind_fewer (.bump At.filled) (fun s' here => ?_) bump_at fun _ => shorter _
      obtain ⟨s, same, read⟩ := here.1
      have fewer := row.takes.length_le read
      change 2 * s.rest.length + 1 = n at same
      omega
  | row parts =>
      exact reads_stepRow (fun s same => half same) shorter parts
  | brackets =>
      refine .bind_advances reads_opening (fun opened => members_advances _ _ _) fun opened => ?_
      refine (more _).weaken fun s' ⟨s, same, read⟩ => ?_
      have fewer := Takes.opening.length_le read
      change 2 * s.rest.length + 1 = n at same
      change 2 * s'.rest.length < n
      omega
  | members negated pending u =>
      exact reads_stepMembers (fun s same => half same) shorter negated pending u

end HeatStack.Regex
