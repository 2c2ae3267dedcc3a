import HeatStack.Proofs.ClosedReading

/-! # Atoms with a closing parenthesis behind

Single characters, escapes and marks are read alike with a parenthesis behind (`Reads`), save where the
pattern ends behind the brace of `\b\x7b`: with the parenthesis, the brace is read again as that of a
repetition (`Reopens`). -/
set_option autoImplicit false
namespace HeatStack.Regex
open HeatStack.Text HeatStack.Unicode

variable {α β : Type} {loose : Bool} {Q : State → Prop}

/-! ## Characters by number and by property -/

theorem until_bind (stop : Char) (k : List Char → Parse α) :
    (fuelHere >>= fun n => takeUntil stop n >>= k) = ((untilLoop stop).whole () >>= k) := by
  rw [← untilLoop_here, bind_assoc]

theorem rest_until {stop : Char} {s s' : State} {cs : List Char}
    (read : (untilLoop stop).whole () s = some (cs, s')) : ∃ r, s'.rest = stop :: r := by
  induction length : s.rest.length using Nat.strong_induction_on generalizing s cs with
  | _ n ih =>
      rw [(untilLoop stop).whole_eq] at read
      obtain ⟨c?, s₁, got, read⟩ := bind_eq_some.mp read
      cases got
      cases rest : s.rest with
      | nil =>
          rw [rest] at read
          cases read
      | cons c r =>
          rw [rest, List.head?_cons] at read
          dsimp only at read
          split at read
          · next same =>
            cases read
            exact ⟨r, same ▸ rest⟩
          · obtain ⟨_, s₁, bumped, read⟩ := bind_eq_some.mp read
            obtain ⟨ds, s₂, read, ended⟩ := bind_eq_some.mp read
            cases ended
            exact ih _ (length ▸ (bumpSpace_advances rest).length_lt bumped) read rfl

theorem filled_until {stop : Char} {cs : List Char} (s' : State)
    (after : After Q ((untilLoop stop).whole ()) cs s') : Filled s' := by
  obtain ⟨s, -, read⟩ := after
  exact ⟨stop, rest_until read⟩

theorem reads_hexDigits (n : Nat) : Reads loose Q (hexDigits n) := by
  induction n generalizing Q loose with
  | zero => exact .pure _
  | succ n ih =>
      refine .bind .next fun c => .barred ?_
      exact .bind .skipSpace fun _ => .bind ih fun _ => .pure _

theorem reads_hexAtom (width : Nat) : Reads loose Q (hexAtom width) := by
  refine .bind .skipSpace fun _ => .peek_ite (by decide) ?_ ?_
  · refine .bind (.bumpSpace At.filled) fun _ => ?_
    rw [until_bind]
    refine .bind (reads_until (by decide)) fun ds => .bind (.bumpSpace filled_until) fun _ => ?_
    exact .bind (.lift _) fun _ => .pure _
  · exact .bind (reads_hexDigits _) fun ds => .bind (.lift _) fun _ => .pure _

theorem reads_unicodeClass (negated : Bool) : Reads loose Q (unicodeClass negated) := by
  refine .loosen (.bind .skipSpace fun _ => .bind .flags fun f => ?_)
  have settled : ∀ {Q : State → Prop} (set? : Option CharSet), Reads false Q (do
      if !f.unicode then failure
      let s ← (set? : Option CharSet)
      return if negated then CharSet.complement (fold f s) else fold f s : Parse CharSet) :=
    fun set? => .barred (.bind (.lift _) fun _ => .pure _)
  refine .peek (.failed _) (fun s _ ends => ?_) fun c => ?_
  · refine .of_advances ends rfl fun r => (bump_advances (closed_rest ends r)).bind fun _ => ?_
    exact .bind (.pure _) fun _ => (settled (Q := Q) _).takes
  · dsimp only
    split
    · exact .failed _
    · next same =>
      cases same
      refine .bind (.bumpSpace At.filled) fun _ => ?_
      rw [until_bind]
      refine .bind (reads_until (by decide)) fun cs => .bind (.bump filled_until) fun _ => ?_
      exact .bind (.pure _) fun _ => settled _
    · exact .failed _
    · next same =>
      cases same
      exact .bind (.bump At.filled) fun _ => .bind (.pure _) fun _ => settled _

/-! ## Boundaries -/

/-- A brace with nothing but blanks and comments behind it. -/
def OpenBrace (u : State) : Prop :=
  ∃ cs u', u.rest = '\x7b' :: cs ∧ skipSpace { u with rest := cs } = some ((), u') ∧ u'.rest = []

/-- Reading fails, and where it does not with a parenthesis behind, it comes past that or goes back to a
brace. -/
structure Reopens (P : α → Prop) (o : Option (α × State)) (w : List Char → Option (α × State)) : Prop where
  fails : o = none
  back : ∃ u, OpenBrace u ∧ ∀ r x, w r = some x → x.2.rest <:+ r ∨ P x.1 ∧ x.2 = u.closed r

inductive Nearly (P : α → Prop) (o : Option (α × State)) (w : List Char → Option (α × State)) : Prop
  | within (near : Within false o w)
  | reopens (back : Reopens P o w)

/-- As `Reads`, or the parser goes back to a brace, with a result that has `P`. -/
structure ReadsNearly (P : α → Prop) (Q : State → Prop) (m : Parse α) : Prop where
  takes : Takes m
  near : ∀ s, Q s → Nearly P (m s) fun r => m (s.closed r)

theorem Reads.nearly {P : α → Prop} {m : Parse α} (reads : Reads false Q m) : ReadsNearly P Q m :=
  ⟨reads.takes, fun s here => .within (reads.near s here)⟩

theorem ReadsNearly.bind {P : β → Prop} {x : Parse α} {f : α → Parse β} (first : Reads false Q x)
    (later : ∀ a, ReadsNearly P (After Q x a) (f a)) : ReadsNearly P Q (x >>= f) :=
  ⟨.bind first.takes fun a => (later a).takes, fun s here =>
    Within.bind_into .within (first.near s here) (fun a => (later a).takes)
      fun a s' read => (later a).near s' ⟨s, here, read⟩⟩

/-- Behind a parser that goes back to a brace, with what comes past the parenthesis from there on. -/
theorem ReadsNearly.reads_bind {P : α → Prop} {x : Parse α} {f : α → Parse β}
    (first : ReadsNearly P Q x) (later : ∀ a, Reads loose (After Q x a) (f a))
    (beyond : ∀ a u r y, P a → OpenBrace u → f a (u.closed r) = some y → y.2.rest <:+ r) :
    Reads loose Q (x >>= f) := by
  refine ⟨.bind first.takes fun a => (later a).takes, fun s here => ?_⟩
  have takes := fun a => (later a).takes
  cases first.near s here with
  | within near =>
      exact .bind near.loosen takes fun a s' read => (later a).near s' ⟨s, here, read⟩
  | reopens back =>
      have own : (x >>= f) s = none := by rw [bind_run, back.fails]; rfl
      obtain ⟨u, brace, behind⟩ := back.back
      refine .lost ⟨fun y read => ?_, fun y read => ?_, fun r y read => ?_⟩
      · cases own.symm.trans read
      · cases own.symm.trans read
      · obtain ⟨a, s', here, there⟩ := bind_eq_some.mp read
        refine List.IsSuffix.trans ?_ (suffix_behind loose r)
        rcases behind r _ here with past | ⟨holds, same⟩
        · exact (takes a s' y there).trans past
        · exact beyond a u r y holds brace (same ▸ there)

theorem ReadsNearly.ite {P : α → Prop} {c : Prop} [Decidable c] {x y : Parse α}
    (yes : ReadsNearly P Q x) (no : ReadsNearly P Q y) : ReadsNearly P Q (if c then x else y) := by
  split
  · exact yes
  · exact no

/-- Behind a parser that goes back to a brace, what takes nothing leaves the brace. -/
theorem ReadsNearly.map {P : α → Prop} {x : Parse α} {f : α → Parse β} (first : ReadsNearly P Q x)
    (later : ∀ a, Reads false (After Q x a) (f a)) (stays : ∀ a s y, f a s = some y → y.2 = s) :
    ReadsNearly (fun _ => True) Q (x >>= f) := by
  refine ⟨.bind first.takes fun a => (later a).takes, fun s here => ?_⟩
  cases first.near s here with
  | within near =>
      exact .within (.bind near (fun a => (later a).takes)
        fun a s' read => (later a).near s' ⟨s, here, read⟩)
  | reopens back =>
      obtain ⟨u, brace, behind⟩ := back.back
      refine .reopens ⟨by rw [bind_run, back.fails]; rfl, u, brace, fun r y read => ?_⟩
      obtain ⟨a, s', here, there⟩ := bind_eq_some.mp read
      rcases behind r _ here with past | ⟨-, same⟩
      · exact .inl (((later a).takes s' y there).trans past)
      · exact .inr ⟨trivial, (stays a s' y there).trans same⟩

def Atom.IsLook (a : Atom) : Prop := ∃ l, a = .look l

def kindOfBoundary (f : Flags) : Parse Atom := do
  let name ← edgeLoop.whole ()
  expect '\x7d'
  let e ← (wordEdge? (String.ofList name) : Option WordEdge)
  return wordLook f e

theorem reads_kindOfBoundary (f : Flags) : Reads loose Q (kindOfBoundary f) := by
  refine .bind (reads_span (by decide)) fun name => .bind (.expect _) fun _ => ?_
  exact .bind (.lift _) fun e => .pure _

theorem takes_kindOfBoundary (f : Flags) : Takes (kindOfBoundary f) :=
  (reads_kindOfBoundary f).anywhere

def plainBoundary (s : State) : Option (Atom × State) := some (wordLook s.flags .boundary, s)

theorem boundary_plain {s : State} (other : s.rest.head? ≠ some '\x7b') :
    boundary s = plainBoundary s := by
  change (if (s.rest.head? != some '\x7b') = true then pure (wordLook s.flags .boundary) else _ :
    Parse Atom) s = _
  rw [if_pos (bne_iff_ne.mpr other)]
  rfl

theorem boundary_brace {s s' : State} {cs : List Char} (rest : s.rest = '\x7b' :: cs)
    (skipped : skipSpace { s with rest := cs } = some ((), s')) : boundary s =
      match s'.rest.head? with
      | none => none
      | some c => if isEdgeChar c then kindOfBoundary s.flags s' else plainBoundary s := by
  have bumped : bumpSpace s = some ((), s') := by
    rw [bumpSpace, bind_run, (passes_bump rest).run]
    exact skipped
  have braced : ¬ (s.rest.head? != some '\x7b') = true := by
    rw [rest, List.head?_cons]
    decide
  change (if (s.rest.head? != some '\x7b') = true then _ else _ : Parse Atom) s = _
  rw [if_neg braced, bind_run, bumped]
  change (match s'.rest.head? with | none => failure | some c => _ : Parse Atom) s' = _
  cases s'.rest.head? with
  | none => rfl
  | some c =>
      dsimp only
      cases edge : isEdgeChar c with
      | false => rfl
      | true =>
          rw [if_neg (by simp), if_pos rfl, kindOfBoundary, ← edgeLoop_here, bind_assoc]

theorem skipSpace_total (s : State) : ∃ s', skipSpace s = some ((), s') := ⟨_, rfl⟩

/-- A boundary goes back at most to where it began. -/
theorem Takes.boundary : Takes boundary := by
  intro s r read
  by_cases braced : s.rest.head? = some '\x7b'
  · obtain ⟨cs, rest⟩ := List.head?_eq_some_iff.mp braced
    obtain ⟨s', skipped⟩ := skipSpace_total { s with rest := cs }
    have fewer : s'.rest <:+ s.rest := by
      rw [rest]
      exact (Takes.skipSpace _ _ skipped).trans (List.suffix_cons _ cs)
    rw [boundary_brace rest skipped] at read
    cases here : s'.rest.head? with
    | none =>
        rw [here] at read
        cases read
    | some c =>
        rw [here] at read
        dsimp only at read
        split at read
        · exact (takes_kindOfBoundary _ _ _ read).trans fewer
        · cases read
          exact List.suffix_rfl
  · rw [boundary_plain braced] at read
    cases read
    exact List.suffix_rfl

section
variable {s s' : State} {cs : List Char} (rest : s.rest = '\x7b' :: cs)
  (skipped : skipSpace { s with rest := cs } = some ((), s'))
include rest skipped

/-- The kind of a boundary begins behind the brace, or the pattern ends there. -/
theorem nearly_boundary_kept (kept : ∀ r, skipSpace { s.closed r with rest := cs ++ ')' :: r } =
      some ((), s'.closed r)) : Nearly Atom.IsLook (boundary s) fun r => boundary (s.closed r) := by
  have closed : ∀ r, (s.closed r).rest = '\x7b' :: (cs ++ ')' :: r) := by
    intro r
    rw [State.closed, rest]
    rfl
  have own := boundary_brace rest skipped
  have wrapped := fun r => boundary_brace (closed r) (kept r)
  cases ends : s'.rest with
  | nil =>
      rw [ends] at own
      refine .reopens ⟨own, s, ⟨cs, s', rest, skipped, ends⟩, fun r x read => .inr ?_⟩
      rw [wrapped r, closed_rest ends] at read
      cases read
      exact ⟨⟨_, rfl⟩, rfl⟩
  | cons c more =>
      have here : ∀ r, (s'.closed r).rest.head? = some c := by
        intro r
        rw [State.closed, ends]
        rfl
      rw [ends, List.head?_cons] at own
      simp only [own, wrapped, here]
      refine .within ?_
      split
      · exact (reads_kindOfBoundary (Q := fun _ => True) s.flags).near s' trivial
      · exact .kept fun r => rfl

/-- A comment behind the brace goes on behind the parenthesis. -/
theorem nearly_boundary_lost (past : Lost false (skipSpace { s with rest := cs })
      fun r => skipSpace { s.closed r with rest := cs ++ ')' :: r }) :
    Nearly Atom.IsLook (boundary s) fun r => boundary (s.closed r) := by
  have ends := past.ended _ skipped
  have own := boundary_brace rest skipped
  rw [ends] at own
  refine .reopens ⟨own, s, ⟨cs, s', rest, skipped, ends⟩, fun r x read => ?_⟩
  have closed : (s.closed r).rest = '\x7b' :: (cs ++ ')' :: r) := by
    rw [State.closed, rest]
    rfl
  obtain ⟨s₂, skippedClosed⟩ := skipSpace_total { s.closed r with rest := cs ++ ')' :: r }
  have fewer := past.past r _ skippedClosed
  rw [boundary_brace closed skippedClosed] at read
  cases here : s₂.rest.head? with
  | none =>
      rw [here] at read
      cases read
  | some c =>
      rw [here] at read
      dsimp only at read
      split at read
      · exact .inl ((takes_kindOfBoundary _ _ _ read).trans fewer)
      · cases read
        exact .inr ⟨⟨_, rfl⟩, rfl⟩

end

/-- The brace behind a boundary is that of a repetition, if it is not that of a kind. -/
theorem nearly_boundary : ReadsNearly Atom.IsLook Q boundary := by
  refine ⟨.boundary, fun s _ => ?_⟩
  by_cases braced : s.rest.head? = some '\x7b'
  · obtain ⟨cs, rest⟩ := List.head?_eq_some_iff.mp braced
    obtain ⟨s', skipped⟩ := skipSpace_total { s with rest := cs }
    cases local_skipSpace { s with rest := cs } with
    | kept same =>
        refine nearly_boundary_kept rest skipped fun r => (same r).trans ?_
        rw [skipped]
        rfl
    | lost past => exact nearly_boundary_lost rest skipped past
  · have apart : ∀ r, (s.closed r).rest.head? ≠ some '\x7b' := by
      intro r
      cases rest : s.rest with
      | nil => simp [closed_rest rest]
      | cons c cs => simpa [State.closed, rest] using braced
    simp only [boundary_plain braced, boundary_plain (apart _)]
    exact .within (.kept fun r => rfl)

/-! ## Escapes -/

theorem nearly_escape : ReadsNearly Atom.IsLook Q escape := by
  refine .bind .flags fun f => .bind .next fun c => ?_
  split
  · exact (reads_hexAtom 2).nearly
  · exact (reads_hexAtom 4).nearly
  · exact (reads_hexAtom 8).nearly
  · exact (Reads.bind (reads_unicodeClass false) fun _ => .pure _).nearly
  · exact (Reads.bind (reads_unicodeClass true) fun _ => .pure _).nearly
  case h_14 => exact nearly_boundary
  case h_18 =>
    refine Reads.nearly (.ite (.bind (.lift _) fun _ => .pure _) (.ite (.pure _) .failure))
  all_goals exact (Reads.pure _).nearly

theorem nearly_setAtom : ReadsNearly Atom.IsLook Q setAtom := by
  refine .bind .next fun c => ?_
  split
  · exact nearly_escape
  · exact (Reads.pure _).nearly

theorem setAtom_advances (s : State) : Advances setAtom s :=
  (next_advances s).bind fun _ => .ite (nearly_escape (Q := fun _ => True)).takes (.pure _)

def exprOf (f : Flags) : Atom → Option Expr
  | .literal c octet => literalExpr f c octet
  | .set s => some (.set s)
  | .look l => some (.look l)

/-- A part of a row that the character `c` begins, from behind it on. -/
def primitiveFrom (f : Flags) (c : Char) : Parse Expr :=
  if c = '.' then liftM (dot f)
  else if c = '^' then pure (.look (circumflex f))
  else if c = '$' then pure (.look (dollar f))
  else if c = '\\' then escape >>= fun a => liftM (exprOf f a)
  else liftM (literalExpr f c false)

theorem primitive_eq : primitive = (flags >>= fun f => next >>= fun c => primitiveFrom f c) := by
  refine bind_congr fun f => bind_congr fun c => ?_
  unfold primitiveFrom
  split
  · rfl
  · rfl
  · rfl
  · refine bind_congr fun a => ?_
    cases a <;> rfl
  · next dot caret dollar escape =>
    rw [if_neg dot, if_neg caret, if_neg dollar, if_neg escape]

/-- A part that goes back to a brace is a look and leaves the brace. -/
theorem nearly_primitiveFrom (f : Flags) (c : Char) :
    ReadsNearly (fun _ => True) Q (primitiveFrom f c) := by
  refine .ite (Reads.lift _).nearly (.ite (Reads.pure _).nearly (.ite (Reads.pure _).nearly ?_))
  refine .ite (nearly_escape.map (fun a => .lift _) fun a s y read => ?_) (Reads.lift _).nearly
  rw [lift_run] at read
  obtain ⟨e, -, rfl⟩ := Option.map_eq_some_iff.mp read
  rfl

theorem nearly_primitive : ReadsNearly (fun _ => True) Q primitive := by
  rw [primitive_eq]
  exact .bind .flags fun f => .bind .next fun c => nearly_primitiveFrom f c

theorem primitive_advances (s : State) : Advances primitive s := by
  rw [primitive_eq]
  refine Takes.flags.advances fun f s' _ => (next_advances s').bind fun c => ?_
  exact (nearly_primitiveFrom (Q := fun _ => True) f c).takes

end HeatStack.Regex
