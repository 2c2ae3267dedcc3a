import HeatStack.Regex.Parser
import Mathlib

/-! # How far a reading comes

No part of the reader of patterns gives back what it has read (`Takes`), and its loops take a character
in each turn, so how much fuel they are given does not matter once it is enough (`settled`). -/
set_option autoImplicit false
namespace HeatStack.Regex
open HeatStack.Text HeatStack.Unicode

variable {α β : Type}

theorem bind_run (x : Parse α) (f : α → Parse β) (s : State) :
    (x >>= f) s = (x s).bind fun r => f r.1 r.2 := rfl

theorem bind_eq_some {x : Parse α} {f : α → Parse β} {s : State} {r : β × State} :
    (x >>= f) s = some r ↔ ∃ a s', x s = some (a, s') ∧ f a s' = some r := by
  rw [bind_run, Option.bind_eq_some_iff, Prod.exists]

theorem lift_run (o : Option α) (s : State) : (liftM o : Parse α) s = o.map fun a => (a, s) := by
  cases o <;> rfl

/-- The rest of the pattern is a rest of what it was. -/
def Takes (m : Parse α) : Prop := ∀ s r, m s = some r → r.2.rest <:+ s.rest

/-- The parser takes one character at least. -/
def Advances (m : Parse α) (s : State) : Prop :=
  ∀ r, m s = some r → ∃ c cs, s.rest = c :: cs ∧ r.2.rest <:+ cs

theorem dropComment_suffix (cs : List Char) : dropComment cs <:+ cs :=
  (List.tail_suffix _).trans (List.dropWhile_suffix _)

/-- What is left behind blanks, where a number sign begins a comment. -/
def dropMarked (fuel : Nat) : List Char → List Char
  | '#' :: r => dropVerbose fuel (dropComment r)
  | r => r

theorem dropVerbose_succ (fuel : Nat) (cs : List Char) :
    dropVerbose (fuel + 1) cs = dropMarked fuel (cs.dropWhile isBlank) := rfl

theorem dropMarked_other {fuel : Nat} {c : Char} {cs : List Char} (other : c ≠ '#') :
    dropMarked fuel (c :: cs) = c :: cs := by
  unfold dropMarked
  split
  · next same => exact absurd (List.cons.inj same).1 other
  · rfl

namespace Takes

theorem of_advances {m : Parse α} (advances : ∀ s, Advances m s) : Takes m := by
  intro s r read
  obtain ⟨c, cs, rest, suffix⟩ := advances s r read
  rw [rest]
  exact suffix.trans (List.suffix_cons c cs)

theorem pure (a : α) : Takes (Pure.pure a : Parse α) := by
  rintro s r ⟨⟩
  exact List.suffix_rfl

theorem failure : Takes (failure : Parse α) := fun _ _ read => nomatch read

theorem lift (o : Option α) : Takes (liftM o : Parse α) := by
  intro s r read
  rw [lift_run] at read
  obtain ⟨a, -, rfl⟩ := Option.map_eq_some_iff.mp read
  exact List.suffix_rfl

theorem bind {x : Parse α} {f : α → Parse β} (first : Takes x) (next : ∀ a, Takes (f a)) :
    Takes (x >>= f) := by
  intro s r read
  obtain ⟨a, s', here, later⟩ := bind_eq_some.mp read
  exact (next a s' r later).trans (first s _ here)

theorem ite {c : Prop} [Decidable c] {x y : Parse α} (yes : Takes x) (no : Takes y) :
    Takes (if c then x else y) := by
  split
  · exact yes
  · exact no

theorem failed (f : α → Parse β) : Takes (Alternative.failure >>= f) := by
  intro s r read
  cases read

/-! ## Characters -/

theorem peek : Takes peek := by
  rintro s r ⟨⟩
  exact List.suffix_rfl

theorem flags : Takes flags := by
  rintro s r ⟨⟩
  exact List.suffix_rfl

theorem setFlags (f : Flags) : Takes (setFlags f) := by
  rintro s r ⟨⟩
  exact List.suffix_rfl

theorem dropVerbose (fuel : Nat) (cs : List Char) : dropVerbose fuel cs <:+ cs := by
  induction fuel generalizing cs with
  | zero => exact List.suffix_rfl
  | succ fuel ih =>
      refine List.IsSuffix.trans ?_ (List.dropWhile_suffix isBlank)
      rw [dropVerbose_succ]
      generalize cs.dropWhile isBlank = q
      cases q with
      | nil => exact List.suffix_rfl
      | cons c r =>
          by_cases number : c = '#'
          · subst number
            exact ((ih _).trans (dropComment_suffix r)).trans (List.suffix_cons _ r)
          · rw [dropMarked_other number]

theorem skipSpace : Takes skipSpace := by
  rintro s r ⟨⟩
  dsimp only
  split
  · exact dropVerbose _ _
  · exact List.suffix_rfl

theorem bump : Takes bump := by
  rintro s r ⟨⟩
  exact List.tail_suffix _

theorem bumpSpace : Takes bumpSpace := bind bump fun _ => skipSpace

theorem peekBehind : Takes peekBehind := by
  intro s r read
  unfold Regex.peekBehind at read
  dsimp only at read
  split at read
  · split at read <;> cases read <;> exact List.suffix_rfl
  · cases read
    exact List.suffix_rfl

theorem bumpIf (word : String) : Takes (bumpIf word) := by
  intro s r read
  unfold Regex.bumpIf at read
  split at read <;> cases read
  · exact List.drop_suffix _ _
  · exact List.suffix_rfl

theorem skipBlanks : Takes skipBlanks := by
  rintro s r ⟨⟩
  exact List.dropWhile_suffix _

end Takes

theorem next_advances (s : State) : Advances next s := by
  intro r read
  unfold next at read
  split at read
  · next c cs rest =>
    cases read
    exact ⟨c, cs, rest, List.suffix_rfl⟩
  · cases read

theorem bump_advances {s : State} {c : Char} {cs : List Char} (rest : s.rest = c :: cs) :
    Advances bump s := by
  rintro r ⟨⟩
  refine ⟨c, cs, rest, ?_⟩
  rw [rest]
  exact List.suffix_rfl

theorem Advances.bind {x : Parse α} {f : α → Parse β} {s : State} (first : Advances x s)
    (next : ∀ a, Takes (f a)) : Advances (x >>= f) s := by
  intro r read
  obtain ⟨a, s', here, later⟩ := bind_eq_some.mp read
  obtain ⟨c, cs, rest, suffix⟩ := first _ here
  exact ⟨c, cs, rest, (next a s' r later).trans suffix⟩

/-- After a look at the pattern, which has taken nothing. -/
theorem Takes.advances {x : Parse α} {f : α → Parse β} {s : State} (first : Takes x)
    (next : ∀ a s', x s = some (a, s') → Advances (f a) s') : Advances (x >>= f) s := by
  intro r read
  obtain ⟨a, s', here, later⟩ := bind_eq_some.mp read
  obtain ⟨c, cs, rest, suffix⟩ := next a s' here r later
  obtain ⟨before, whole⟩ := rest ▸ first s _ here
  cases before with
  | nil => exact ⟨c, cs, whole.symm, suffix⟩
  | cons d before =>
      refine ⟨d, before ++ c :: cs, whole.symm, suffix.trans ?_⟩
      exact (List.suffix_cons c cs).trans (List.suffix_append ..)

theorem bumpSpace_advances {s : State} {c : Char} {cs : List Char} (rest : s.rest = c :: cs) :
    Advances bumpSpace s :=
  (bump_advances rest).bind fun _ => .skipSpace

theorem Takes.next : Takes next := .of_advances next_advances

theorem Takes.get : Takes (get : Parse State) := by
  rintro s r ⟨⟩
  exact List.suffix_rfl

theorem Takes.expect (c : Char) : Takes (expect c) :=
  .bind .next fun _ => .ite .failure (.pure _)

/-! ## Loops -/

theorem bind_congr_both {x y : Parse α} {f g : α → Parse β} {s : State} (first : x s = y s)
    (same : ∀ a s', x s = some (a, s') → f a s' = g a s') : (x >>= f) s = (y >>= g) s := by
  rw [bind_run, bind_run, ← first]
  exact Option.bind_congr fun r read => same r.1 r.2 read

theorem bind_congr_at {x : Parse α} {f g : α → Parse β} {s : State}
    (same : ∀ a s', x s = some (a, s') → f a s' = g a s') : (x >>= f) s = (x >>= g) s :=
  bind_congr_both rfl same

theorem Advances.length_lt {m : Parse α} {s s' : State} {a : α} (advances : Advances m s)
    (read : m s = some (a, s')) : s'.rest.length < s.rest.length := by
  obtain ⟨c, cs, rest, suffix⟩ := advances _ read
  rw [rest, List.length_cons]
  exact Nat.lt_succ_of_le suffix.length_le

theorem Takes.length_le {m : Parse α} {s s' : State} {a : α} (takes : Takes m)
    (read : m s = some (a, s')) : s'.rest.length ≤ s.rest.length :=
  (takes s _ read).length_le

/-- Parsers that are defined with fuel: a step of them, and what it costs.  The calls that a step makes
cost less. -/
structure Fueled (ι : Type) (γ : ι → Type) where
  run : Nat → (i : ι) → Parse (γ i)
  step : ((i : ι) → Parse (γ i)) → (i : ι) → Parse (γ i)
  cost : ι → State → Nat
  run_succ : ∀ n i, run (n + 1) i = step (run n) i
  takes_zero : ∀ i, Takes (run 0 i)
  takes_step : ∀ m, (∀ j, Takes (m j)) → ∀ i, Takes (step m i)
  guarded : ∀ m m' i s, (∀ j, Takes (m j)) →
    (∀ j s', cost j s' < cost i s → m j s' = m' j s') → step m i s = step m' i s

namespace Fueled
variable {ι : Type} {γ : ι → Type} (l : Fueled ι γ)

theorem takes_run (n : Nat) : ∀ i, Takes (l.run n i) := by
  induction n with
  | zero => exact l.takes_zero
  | succ n ih =>
      intro i
      rw [l.run_succ]
      exact l.takes_step _ ih i

theorem settled {n n' : Nat} {i : ι} {s : State} (enough : l.cost i s < n)
    (enough' : l.cost i s < n') : l.run n i s = l.run n' i s := by
  induction n generalizing n' i s with
  | zero => exact absurd enough (Nat.not_lt_zero _)
  | succ n ih =>
      obtain ⟨n', rfl⟩ := Nat.exists_eq_succ_of_ne_zero (Nat.ne_zero_of_lt enough')
      rw [l.run_succ, Nat.succ_eq_add_one, l.run_succ]
      -- A call of the step costs less, so what is left of the fuel is enough for it on either side.
      refine l.guarded _ _ i s (l.takes_run n) fun j s' less => ih ?_ ?_
      · exact Nat.lt_of_lt_of_le less (Nat.le_of_lt_succ enough)
      · exact Nat.lt_of_lt_of_le less (Nat.le_of_lt_succ enough')

def whole (i : ι) : Parse (γ i) := fun s => l.run (l.cost i s + 1) i s

theorem takes_whole (i : ι) : Takes (l.whole i) := fun s r read => l.takes_run _ i s r read

theorem run_eq_whole {n : Nat} {i : ι} {s : State} (enough : l.cost i s < n) :
    l.run n i s = l.whole i s :=
  l.settled enough (Nat.lt_succ_self _)

theorem whole_eq (i : ι) (s : State) : l.whole i s = l.step l.whole i s := by
  rw [whole, l.run_succ]
  exact l.guarded _ _ i s (l.takes_run _) fun j s' less => l.run_eq_whole less

end Fueled

/-- What a step does where a character stands, and where none does. -/
theorem Takes.step {f : Option Char → Parse α} (ends : Takes (f none)) (here : ∀ c, Takes (f (some c))) :
    Takes (Regex.peek >>= f) :=
  .bind .peek fun c? => by
    cases c? with
    | none => exact ends
    | some c => exact here c

/-- Two continuations that agree behind the character that stands here. -/
theorem peek_congr {f g : Option Char → Parse α} {s : State} (ends : f none s = g none s)
    (here : ∀ c cs, s.rest = c :: cs → f (some c) s = g (some c) s) :
    (peek >>= f) s = (peek >>= g) s := by
  refine bind_congr_at fun c? s' looked => ?_
  cases looked
  cases rest : s.rest with
  | nil => exact ends
  | cons c cs => exact here c cs rest

def untilLoop (stop : Char) : Fueled Unit fun _ => List Char where
  run n _ := takeUntil stop n
  step more _ := do
    match ← peek with
    | none => failure
    | some c =>
      if c = stop then return []
      else
        bumpSpace
        let cs ← more ()
        return c :: cs
  cost _ s := s.rest.length
  run_succ _ _ := rfl
  takes_zero _ := .failure
  takes_step m takes _ := .step .failure fun c =>
    .ite (.pure _) (.bind .bumpSpace fun _ => .bind (takes ()) fun _ => .pure _)
  guarded m m' _ s _ same := by
    refine peek_congr rfl fun c cs rest => ?_
    dsimp only
    split
    · rfl
    · refine bind_congr_at fun _ s' bumped => bind_congr_both ?_ fun _ _ _ => rfl
      exact same () s' ((bumpSpace_advances rest).length_lt bumped)

def spanLoop (accepts : Char → Bool) (run : Nat → Parse (List Char)) (takes_zero : Takes (run 0))
    (run_succ : ∀ n, run (n + 1) = do
      match ← peek with
      | some c =>
        if accepts c then
          bumpSpace
          let cs ← run n
          return c :: cs
        else return []
      | none => return []) : Fueled Unit fun _ => List Char where
  run n _ := run n
  step more _ := do
    match ← peek with
    | some c =>
      if accepts c then
        bumpSpace
        let cs ← more ()
        return c :: cs
      else return []
    | none => return []
  cost _ s := s.rest.length
  run_succ n _ := run_succ n
  takes_zero _ := takes_zero
  takes_step m takes _ := .step (.pure _) fun c =>
    .ite (.bind .bumpSpace fun _ => .bind (takes ()) fun _ => .pure _) (.pure _)
  guarded m m' _ s _ same := by
    refine peek_congr rfl fun c cs rest => ?_
    dsimp only
    split
    · refine bind_congr_at fun _ s' bumped => bind_congr_both ?_ fun _ _ _ => rfl
      exact same () s' ((bumpSpace_advances rest).length_lt bumped)
    · rfl

def edgeLoop : Fueled Unit fun _ => List Char :=
  spanLoop isEdgeChar edgeChars (.pure _) fun _ => rfl

def digitLoop : Fueled Unit fun _ => List Char :=
  spanLoop isDigit digitsHere (.pure _) fun _ => rfl

def dashLoop : Fueled Union fun _ => Union where
  run := openingDashes
  step more u := do
    match ← peek with
    | none => failure
    | some c =>
      if c = '-' then
        bumpSpace
        more (u.add (CharSet.single 45) 0)
      else return u
  cost _ s := s.rest.length
  run_succ n u := by
    refine bind_congr fun c? => ?_
    split <;> simp_all
  takes_zero u := .pure u
  takes_step m takes u := .step .failure fun c => .ite (.bind .bumpSpace fun _ => takes _) (.pure _)
  guarded m m' u s _ same := by
    refine peek_congr rfl fun c cs rest => ?_
    dsimp only
    split
    · refine bind_congr_at fun _ s' bumped => ?_
      exact same _ s' ((bumpSpace_advances rest).length_lt bumped)
    · rfl

structure Letters where
  seen : List Char
  negative : Bool
  dangling : Bool
  flags : Flags

def letterLoop : Fueled Letters fun _ => Flags × List Char × Char where
  run n l := flagLetters n l.seen l.negative l.dangling l.flags
  step more l := do
    let c ← next
    if c = ':' ∨ c = ')' then
      if l.dangling then failure
      else return (l.flags, l.seen, c)
    else if l.seen.contains c then failure
    else if c = '-' then more ⟨'-' :: l.seen, true, true, l.flags⟩
    else
      let f ← (setFlag l.flags c (!l.negative) : Option Flags)
      more ⟨c :: l.seen, l.negative, false, f⟩
  cost _ s := s.rest.length
  run_succ n l := by
    refine bind_congr fun c => ?_
    split_ifs <;> rfl
  takes_zero l := .failure
  takes_step m takes l := .bind .next fun c =>
    .ite (.ite .failure (.pure _)) (.ite .failure (.ite (takes _)
      (.bind (.lift _) fun _ => takes _)))
  guarded m m' l s _ same := by
    refine bind_congr_at fun c s' taken => ?_
    have less := (next_advances s).length_lt taken
    split_ifs
    · rfl
    · rfl
    · rfl
    · exact same _ s' less
    · refine bind_congr_at fun f s'' lifted => ?_
      exact same _ s'' (Nat.lt_of_le_of_lt ((Takes.lift _).length_le lifted) less)

theorem untilLoop_here (stop : Char) :
    (fuelHere >>= takeUntil stop) = (untilLoop stop).whole () :=
  funext fun _ => (untilLoop stop).run_eq_whole (i := ()) (Nat.lt_add_of_pos_right Nat.two_pos)

theorem edgeLoop_here : (fuelHere >>= edgeChars) = edgeLoop.whole () :=
  funext fun _ => edgeLoop.run_eq_whole (i := ()) (Nat.lt_add_of_pos_right Nat.two_pos)

theorem digitLoop_here : (fuelHere >>= digitsHere) = digitLoop.whole () :=
  funext fun _ => digitLoop.run_eq_whole (i := ()) (Nat.lt_add_of_pos_right Nat.two_pos)

theorem dashLoop_here (u : Union) :
    (fuelHere >>= fun n => openingDashes n u) = dashLoop.whole u :=
  funext fun _ => dashLoop.run_eq_whole (i := u) (Nat.lt_add_of_pos_right Nat.two_pos)

theorem letterLoop_here (l : Letters) :
    (fuelHere >>= fun n => flagLetters n l.seen l.negative l.dangling l.flags) = letterLoop.whole l :=
  funext fun _ => letterLoop.run_eq_whole (i := l) (Nat.lt_add_of_pos_right Nat.two_pos)

end HeatStack.Regex
