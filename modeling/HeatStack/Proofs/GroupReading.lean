import HeatStack.Proofs.SetReading

/-! # Groups and repetitions with a closing parenthesis behind

What follows an opening parenthesis, and the bounds of repetitions.  The parenthesis is no part of a
count or a bound; behind letters of flags it ends them, and a name that it is in goes on behind it. -/
set_option autoImplicit false
namespace HeatStack.Regex
open HeatStack.Text HeatStack.Unicode

variable {α : Type} {loose : Bool} {Q : State → Prop}

/-! ## What a parenthesis opens -/

def validName (names : List (List Char)) (name : List Char) : Bool :=
  match name with
  | c :: r => isNameStart c && r.all isNameRest && !names.contains name
  | [] => false

theorem groupName_eq (s : State) : groupName s =
    match s.rest.dropWhile (· != '>') with
    | _ :: rest =>
      let name := s.rest.takeWhile (· != '>')
      if validName s.names name then some ((), { s with rest := rest, names := name :: s.names }) else none
    | [] => none := by
  unfold groupName
  dsimp only
  cases s.rest.takeWhile (· != '>') <;> cases s.rest.dropWhile (· != '>') <;> rfl

theorem reads_groupName : Reads loose Q groupName := by
  have takes : Takes groupName := by
    intro s r read
    rw [groupName_eq] at read
    have suffix := List.dropWhile_suffix (· != '>') (l := s.rest)
    split at read
    · next d rest behind =>
      rw [behind] at suffix
      dsimp only at read
      split at read <;> cases read
      exact (List.suffix_cons d rest).trans suffix
    · cases read
  refine .loosen ⟨takes, fun s _ => ?_⟩
  have apart : ')' ≠ '>' := by decide
  rcases span_closed apart s.rest with ⟨q, own, wrapped⟩ | ⟨own, wrapped⟩
  · refine .kept fun r => ?_
    rw [groupName_eq, groupName_eq, State.closed]
    simp only [own, (wrapped r).1, (wrapped r).2]
    split <;> rfl
  · have fails : groupName s = none := by rw [groupName_eq, own]
    refine .lost ⟨fun x read => ?_, fun x read => ?_, fun r x read => ?_⟩
    · cases fails.symm.trans read
    · cases fails.symm.trans read
    · rw [groupName_eq, State.closed] at read
      have suffix := List.dropWhile_suffix (· != '>') (l := r)
      simp only [(wrapped r).1] at read
      split at read
      · next d rest behind =>
        rw [behind] at suffix
        split at read <;> cases read
        exact (List.suffix_cons d rest).trans suffix
      · cases read

/-- A group, or flags for what is behind them. -/
def lettersFrom (f : Flags) : Parse Opening := do
  let read ← letterLoop.whole ⟨[], false, false, f⟩
  setFlags read.1
  if read.2.2 = ':' then return .group false
  if read.2.1.isEmpty then failure
  return .directive

def namedGroup : Parse Opening := do
  groupName
  return .group true

theorem groupOpening_eq : groupOpening = (do
    skipSpace
    let f ← flags
    if (← bumpIf "?=") then failure
    if (← bumpIf "?!") then failure
    if (← bumpIf "?<=") then failure
    if (← bumpIf "?<!") then failure
    if (← bumpIf "?P<") then namedGroup
    else if (← bumpIf "?<") then namedGroup
    else if (← bumpIf "?") then lettersFrom f
    else return .group true) := by
  have letters : ∀ f, lettersFrom f = (do
      let read ← flagLetters (← fuelHere) [] false false f
      setFlags read.1
      if read.2.2 = ':' then return .group false
      if read.2.1.isEmpty then failure
      return .directive) := by
    intro f
    rw [lettersFrom, ← letterLoop_here, bind_assoc]
  simp only [letters]
  rfl

theorem reads_groupOpening : Reads loose Q groupOpening := by
  have named : ∀ {Q : State → Prop}, Reads loose Q namedGroup :=
    .bind reads_groupName fun _ => .pure _
  rw [groupOpening_eq]
  refine .bind .skipSpace fun _ => .bind .flags fun f => ?_
  refine .bind (.bumpIf (by decide)) fun _ => .barred (.bind (.bumpIf (by decide)) fun _ => .barred ?_)
  refine .bind (.bumpIf (by decide)) fun _ => .barred (.bind (.bumpIf (by decide)) fun _ => .barred ?_)
  refine .bind (.bumpIf (by decide)) fun _ => .ite named (.bind (.bumpIf (by decide)) fun _ => .ite named ?_)
  refine .bind (.bumpIf (by decide)) fun _ => .ite (.bind (reads_letters _) fun read => ?_) (.pure _)
  exact .bind (.setFlags _) fun _ => .ite (.pure _) (.barred (.pure _))

/-! ## Repetitions -/

theorem skipSpace_parenthesis {s : State} {r : List Char} (rest : s.rest = ')' :: r) :
    skipSpace s = some ((), s) := by
  unfold skipSpace
  rw [rest, dropVerbose_parenthesis, ← rest]
  cases s.flags.verbose <;> rfl

def countFrom (ds : List Char) : Parse (Option Nat) := do
  skipBlanks
  skipSpace
  if ds.isEmpty then return none
  if decimal ds < Nat.pow 2 32 then return some (decimal ds) else failure

theorem count_eq : count = (skipBlanks >>= fun _ => digitLoop.whole () >>= countFrom) := by
  rw [← digitLoop_here]
  simp only [bind_assoc]
  rfl

theorem reads_count : Reads loose Q count := by
  rw [count_eq]
  refine .bind .skipBlanks fun _ => .bind (reads_span (by decide)) fun ds => ?_
  refine .bind .skipBlanks fun _ => .bind .skipSpace fun _ => .ite (.pure _) (.ite (.pure _) .failure)

/-- At the parenthesis there is no count. -/
theorem count_parenthesis {s : State} {r : List Char} (rest : s.rest = ')' :: r) :
    count s = some (none, s) := by
  have blanks : skipBlanks s = some ((), s) := by
    unfold skipBlanks
    rw [rest]
    exact congrArg (fun rest => some ((), { s with rest := rest })) rest.symm
  have digits : digitLoop.whole () s = some ([], s) := by
    rw [digitLoop.whole_eq]
    change (peek >>= _) s = _
    rw [bind_run, peek, rest]
    rfl
  rw [count_eq, bind_run, blanks, Option.bind_some, bind_run, digits, Option.bind_some, countFrom,
    bind_run, blanks, Option.bind_some, bind_run, skipSpace_parenthesis rest]
  rfl

theorem reads_bounds : Reads loose Q bounds := by
  -- Bounds that end the pattern fail; with the parenthesis they fail too, as it is no count.
  refine .bind .skipSpace fun _ => .peek (.failed _) (fun s _ ends => .kept fun r => ?_) fun c => ?_
  · have rest := closed_rest ends r
    change (count >>= _) (s.closed r) = _
    rw [bind_run, count_parenthesis rest, Option.bind_some, bind_run, peek, rest]
    rfl
  refine .barred (.bind reads_count fun least => .peek_same rfl .failure fun c => ?_)
  dsimp only
  split
  · next same =>
    cases same
    refine .bind (.bumpSpace At.filled) fun _ => .peek .failure (fun s _ ends => .kept fun r => ?_) fun c => ?_
    · change ((liftM least : Parse Nat) >>= fun n => count >>= _) (s.closed r) = _
      rw [bind_run, lift_run]
      cases least with
      | none => rfl
      | some n =>
          change (count >>= _) (s.closed r) = _
          rw [bind_run, count_parenthesis (closed_rest ends r)]
          rfl
    · split
      · exact .failure
      · next same =>
        cases same
        exact .bind (.bumpSpace At.filled) fun _ => .bind (.lift _) fun n => .pure _
      · refine .bind (.lift _) fun n => .bind reads_count fun most => .bind (.lift _) fun m => ?_
        exact .bind (.expect _) fun _ => .bind .skipSpace fun _ => .barred (.pure _)
  · next same =>
    cases same
    exact .bind (.bumpSpace At.filled) fun _ => .bind (.lift _) fun n => .pure _
  · exact .failure

/-- What follows the character that announces a repetition. -/
def repetitionFrom (c : Char) : Parse (Nat × Option Nat) := do
  let b ← match c with
    | '?' => pure (0, some 1)
    | '*' => pure (0, none)
    | '+' => pure (1, none)
    | _ => bounds
  lazyMark
  return b

theorem reads_repetitionFrom (c : Char) : Reads loose Q (repetitionFrom c) := by
  have marked : ∀ {Q : State → Prop} (b : Nat × Option Nat), Reads loose Q (do lazyMark; return b) :=
    fun b => .bind (.peek_ite (by decide) (.bump At.filled) (.pure _)) fun _ => .pure _
  unfold repetitionFrom
  split
  · exact .bind (.pure _) fun b => marked b
  · exact .bind (.pure _) fun b => marked b
  · exact .bind (.pure _) fun b => marked b
  · exact .bind reads_bounds fun b => marked b

theorem repetition_eq (c : Char) : repetition c = (bump >>= fun _ => repetitionFrom c) := rfl

theorem reads_repetition {c : Char} (filled : ∀ s, Q s → Filled s) : Reads loose Q (repetition c) :=
  .bind (.bump filled) fun _ => reads_repetitionFrom c

theorem repetition_advances (c : Char) {s : State} (filled : Filled s) : Advances (repetition c) s :=
  let ⟨_, _, rest⟩ := filled
  (bump_advances rest).bind fun _ => (reads_repetitionFrom c).anywhere

/-- A brace that is open has no bounds before the parenthesis. -/
theorem repetition_beyond {u : State} (brace : OpenBrace u) {r : List Char}
    {y : (Nat × Option Nat) × State} (read : repetition '\x7b' (u.closed r) = some y) : y.2.rest <:+ r := by
  obtain ⟨cs, u', rest, skipped, ends⟩ := brace
  have fails : repetition '\x7b' u = none := by
    rw [repetition_eq, bind_run, (passes_bump rest).run]
    change (bounds >>= _) _ = _
    have unbounded : bounds { u with rest := cs } = none := by
      unfold bounds
      rw [bind_run, skipped]
      change (peek >>= _) u' = _
      rw [bind_run, peek, ends]
      rfl
    rw [bind_run, unbounded]
    rfl
  have reads : Reads false Filled (repetition '\x7b') := reads_repetition fun _ filled => filled
  have near := reads.near u ⟨_, _, rest⟩
  rw [fails] at near
  cases near with
  | kept same => cases (same r).symm.trans read
  | lost past => exact past.past r y read

end HeatStack.Regex
