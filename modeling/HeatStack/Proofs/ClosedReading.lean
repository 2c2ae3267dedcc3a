import HeatStack.Proofs.ReadingProgress

/-! # Reading with a closing parenthesis behind

A part of the reader that is given a pattern and the same pattern with a closing parenthesis and more
behind it does the same in both, or it does not stop before the parenthesis (`Local`).  The second comes
about at the end of what is incomplete, and at the end of a comment, which goes on behind the
parenthesis. -/
set_option autoImplicit false
namespace HeatStack.Regex
open HeatStack.Text HeatStack.Unicode

variable {α β : Type}

/-- A closing parenthesis and `r` behind the rest. -/
def State.closed (s : State) (r : List Char) : State := { s with rest := s.rest ++ ')' :: r }

/-- The same is read, and the parenthesis is left. -/
def Kept (o : Option (α × State)) (w : List Char → Option (α × State)) : Prop :=
  ∀ r, w r = o.map fun x => (x.1, x.2.closed r)

/-- What is behind the parenthesis, with the parenthesis if `loose`. -/
def behind (loose : Bool) (r : List Char) : List Char := if loose then ')' :: r else r

/-- The reading comes past the parenthesis, and if it ends without it, it is at the end. -/
structure Lost (loose : Bool) (o : Option (α × State)) (w : List Char → Option (α × State)) : Prop where
  ended : ∀ x, o = some x → x.2.rest = []
  swallowed : ∀ x, o = some x → ∀ r, '\n' ∉ r → w r = some x
  past : ∀ r x, w r = some x → x.2.rest <:+ behind loose r

inductive Within (loose : Bool) (o : Option (α × State)) (w : List Char → Option (α × State)) : Prop
  | kept (same : Kept o w)
  | lost (past : Lost loose o w)

/-- The reading does not depend on the parenthesis, or it comes past it. -/
def Local (m : Parse α) (s : State) : Prop := Within false (m s) fun r => m (s.closed r)

/-- The reading does not depend on the parenthesis, or it comes to it at least. -/
def Loose (m : Parse α) (s : State) : Prop := Within true (m s) fun r => m (s.closed r)

theorem suffix_behind (loose : Bool) (r : List Char) : r <:+ behind loose r := by
  cases loose with
  | false => exact List.suffix_rfl
  | true => exact List.suffix_cons ')' r

/-- The parser takes what is there and does not look further. -/
structure Passes (x : Parse α) (s : State) (a : α) (s' : State) : Prop where
  run : x s = some (a, s')
  closed : ∀ r, x (s.closed r) = some (a, s'.closed r)

theorem Passes.bind {x : Parse α} {s s' : State} {a : α} (passes : Passes x s a s')
    {f : α → Parse β} {P : Option (β × State) → (List Char → Option (β × State)) → Prop}
    (later : P (f a s') fun r => f a (s'.closed r)) :
    P ((x >>= f) s) fun r => (x >>= f) (s.closed r) := by
  have run : (x >>= f) s = f a s' := by rw [bind_run, passes.run]; rfl
  have closed : (fun r => (x >>= f) (s.closed r)) = fun r => f a (s'.closed r) := by
    funext r
    rw [bind_run, passes.closed]
    rfl
  rw [run, closed]
  exact later

theorem Passes.within {loose : Bool} {x : Parse α} {s s' : State} {a : α} (passes : Passes x s a s') :
    Within loose (x s) fun r => x (s.closed r) :=
  .kept fun r => by rw [passes.closed, passes.run]; rfl

namespace Within
variable {loose : Bool} {s : State}

theorem pure (a : α) : Within loose ((Pure.pure a : Parse α) s) fun r => (Pure.pure a : Parse α) (s.closed r) :=
  .kept fun _ => rfl

theorem failure : Within loose ((Alternative.failure : Parse α) s)
    fun r => (Alternative.failure : Parse α) (s.closed r) :=
  .kept fun _ => rfl

theorem lift (o : Option α) : Within loose ((liftM o : Parse α) s) fun r => (liftM o : Parse α) (s.closed r) := by
  refine .kept fun r => ?_
  cases o <;> rfl

theorem loosen {o : Option (α × State)} {w : List Char → Option (α × State)} (near : Within false o w) :
    Within loose o w := by
  cases near with
  | kept same => exact .kept same
  | lost past =>
      exact .lost ⟨past.ended, past.swallowed, fun r x read =>
        (past.past r x read).trans (suffix_behind loose r)⟩

/-- Whatever holds of readings that come so far. -/
theorem bind_into {R : Option (β × State) → (List Char → Option (β × State)) → Prop}
    (into : ∀ {o w}, Within loose o w → R o w) {x : Parse α} {f : α → Parse β}
    (first : Within loose (x s) fun r => x (s.closed r)) (takes : ∀ a, Takes (f a))
    (later : ∀ a s', x s = some (a, s') → R (f a s') fun r => f a (s'.closed r)) :
    R ((x >>= f) s) fun r => (x >>= f) (s.closed r) := by
  cases first with
  | kept same =>
      cases read : x s with
      | none =>
          refine into (.kept fun r => ?_)
          rw [bind_run, bind_run, same r, read]
          rfl
      | some y =>
          have passes : Passes x s y.1 y.2 := ⟨read, fun r => (same r).trans (by rw [read]; rfl)⟩
          exact passes.bind (later _ _ read)
  | lost past =>
      -- `f` gives nothing back, so what `x` has passed stays passed.
      refine into (.lost ⟨fun y read => ?_, fun y read r plain => ?_, fun r y read => ?_⟩)
      · obtain ⟨a, s', here, there⟩ := bind_eq_some.mp read
        have spent := takes a s' y there
        rw [past.ended _ here] at spent
        exact List.suffix_nil.mp spent
      · obtain ⟨a, s', here, there⟩ := bind_eq_some.mp read
        exact bind_eq_some.mpr ⟨a, s', past.swallowed _ here r plain, there⟩
      · obtain ⟨a, s', here, there⟩ := bind_eq_some.mp read
        exact (takes a s' y there).trans (past.past r _ here)

theorem bind {x : Parse α} {f : α → Parse β} (first : Within loose (x s) fun r => x (s.closed r))
    (takes : ∀ a, Takes (f a))
    (later : ∀ a s', x s = some (a, s') → Within loose (f a s') fun r => f a (s'.closed r)) :
    Within loose ((x >>= f) s) fun r => (x >>= f) (s.closed r) :=
  bind_into id first takes later

/-- What only comes to the parenthesis comes past it by what takes a character more. -/
theorem bind_advances {x : Parse α} {f : α → Parse β} (first : Loose x s)
    (advances : ∀ a s, Advances (f a) s) (later : ∀ a s', x s = some (a, s') → Local (f a) s') :
    Local (x >>= f) s := by
  cases first with
  | kept same =>
      exact bind (.kept same) (fun a => .of_advances (advances a)) later
  | lost past =>
      refine .lost ⟨fun y read => ?_, fun y read r plain => ?_, fun r y read => ?_⟩
      · obtain ⟨a, s', here, there⟩ := bind_eq_some.mp read
        obtain ⟨c, cs, rest, -⟩ := advances a s' y there
        cases (past.ended _ here).symm.trans rest
      · obtain ⟨a, s', here, there⟩ := bind_eq_some.mp read
        exact bind_eq_some.mpr ⟨a, s', past.swallowed _ here r plain, there⟩
      · obtain ⟨a, s', here, there⟩ := bind_eq_some.mp read
        obtain ⟨c, cs, rest, suffix⟩ := advances a s' y there
        have reach := past.past r _ here
        rw [rest] at reach
        rcases List.suffix_cons_iff.mp reach with same | within
        · cases same
          exact suffix
        · exact (suffix.trans (List.suffix_cons c cs)).trans within

/-- Where the pattern ends too early, it is enough that a character is taken. -/
theorem of_advances {m m' : Parse α} (ends : s.rest = []) (own : m s = none)
    (advances : ∀ r, Advances m' (s.closed r)) : Within loose (m s) fun r => m' (s.closed r) := by
  refine .lost ⟨fun x read => ?_, fun x read => ?_, fun r x read => ?_⟩
  · cases own.symm.trans read
  · cases own.symm.trans read
  · obtain ⟨c, cs, rest, suffix⟩ := advances r x read
    rw [State.closed, ends] at rest
    cases rest
    exact suffix.trans (suffix_behind loose r)

theorem of_takes {m m' : Parse α} (ends : s.rest = []) (own : m s = none) (takes : Takes m') :
    Within true (m s) fun r => m' (s.closed r) := by
  refine .lost ⟨fun x read => ?_, fun x read => ?_, fun r x read => ?_⟩
  · cases own.symm.trans read
  · cases own.symm.trans read
  · have suffix := takes _ x read
    rw [State.closed, ends] at suffix
    exact suffix

theorem of_peek {f : Option Char → Parse α} (ends : s.rest = [] →
      Within loose (f none s) fun r => f (some ')') (s.closed r))
    (here : ∀ c cs, s.rest = c :: cs → Within loose (f (some c) s) fun r => f (some c) (s.closed r)) :
    Within loose ((peek >>= f) s) fun r => (peek >>= f) (s.closed r) := by
  cases rest : s.rest with
  | nil =>
      have run : (peek >>= f) s = f none s := by
        rw [bind_run, peek, rest]
        rfl
      have closed : (fun r => (peek >>= f) (s.closed r)) = fun r => f (some ')') (s.closed r) := by
        funext r
        rw [bind_run, peek, State.closed, rest]
        rfl
      rw [run, closed]
      exact ends rest
  | cons c cs =>
      have passes : Passes peek s (some c) s :=
        ⟨by rw [peek, rest]; rfl, fun r => by rw [peek, State.closed, rest]; rfl⟩
      exact passes.bind (P := Within loose) (here c cs rest)

end Within

/-- From every state with `Q` the parser takes characters and is not misled by a parenthesis. -/
structure Reads (loose : Bool) (Q : State → Prop) (m : Parse α) : Prop where
  takes : Takes m
  near : ∀ s, Q s → Within loose (m s) fun r => m (s.closed r)

/-- Where `x` leads to with the result `a`. -/
def After (Q : State → Prop) (x : Parse α) (a : α) (s' : State) : Prop :=
  ∃ s, Q s ∧ x s = some (a, s')

def At (Q : State → Prop) (c : Char) (s : State) : Prop := Q s ∧ ∃ cs, s.rest = c :: cs

def Filled (s : State) : Prop := ∃ c cs, s.rest = c :: cs

theorem At.filled {Q : State → Prop} {c : Char} (s : State) (here : At Q c s) : Filled s :=
  ⟨c, here.2⟩

namespace Reads
variable {loose : Bool} {Q : State → Prop}

theorem anywhere {m : Parse α} (reads : Reads false (fun _ => True) m) : Takes m := reads.takes

theorem pure (a : α) : Reads loose Q (Pure.pure a : Parse α) := ⟨.pure a, fun _ _ => .pure a⟩

theorem failure : Reads loose Q (Alternative.failure : Parse α) := ⟨.failure, fun _ _ => .failure⟩

theorem lift (o : Option α) : Reads loose Q (liftM o : Parse α) := ⟨.lift o, fun _ _ => .lift o⟩

theorem loosen {m : Parse α} (reads : Reads false Q m) : Reads loose Q m :=
  ⟨reads.takes, fun s here => (reads.near s here).loosen⟩

theorem bind {x : Parse α} {f : α → Parse β} (first : Reads loose Q x)
    (later : ∀ a, Reads loose (After Q x a) (f a)) : Reads loose Q (x >>= f) :=
  ⟨.bind first.takes fun a => (later a).takes, fun s here =>
    .bind (first.near s here) (fun a => (later a).takes)
      fun a s' read => (later a).near s' ⟨s, here, read⟩⟩

/-- What only comes to the parenthesis, and then takes a character more. -/
theorem bind_advances {x : Parse α} {f : α → Parse β} (first : Reads true Q x)
    (advances : ∀ a s, Advances (f a) s) (later : ∀ a, Reads false (After Q x a) (f a)) :
    Reads false Q (x >>= f) :=
  ⟨.bind first.takes fun a => (later a).takes, fun s here =>
    .bind_advances (first.near s here) advances fun a s' read => (later a).near s' ⟨s, here, read⟩⟩

theorem weaken {Q' : State → Prop} {m : Parse α} (reads : Reads loose Q' m)
    (implies : ∀ s, Q s → Q' s) : Reads loose Q m :=
  ⟨reads.takes, fun s here => reads.near s (implies s here)⟩

theorem ite {c : Prop} [Decidable c] {x y : Parse α} (yes : Reads loose Q x) (no : Reads loose Q y) :
    Reads loose Q (if c then x else y) := by
  split
  · exact yes
  · exact no

theorem failed (f : α → Parse β) : Reads loose Q (Alternative.failure >>= f) :=
  ⟨.failed f, fun _ _ => .kept fun _ => rfl⟩

theorem barred {c : Prop} [Decidable c] {f : PUnit → Parse α} (later : Reads loose Q (f ())) :
    Reads loose Q (if c then Alternative.failure >>= f else f ()) :=
  ite (failed f) later

theorem peek {f : Option Char → Parse α} (takes : Takes (f none))
    (ends : ∀ s, Q s → s.rest = [] → Within loose (f none s) fun r => f (some ')') (s.closed r))
    (here : ∀ c, Reads loose (At Q c) (f (some c))) : Reads loose Q (peek >>= f) :=
  ⟨.step takes fun c => (here c).takes, fun s holds =>
    .of_peek (ends s holds) fun c cs rest => (here c).near s ⟨holds, cs, rest⟩⟩

/-- A look that takes the parenthesis for the end. -/
theorem peek_same {f : Option Char → Parse α} (same : f (some ')') = f none)
    (ends : Reads loose Q (f none)) (here : ∀ c, Reads loose (At Q c) (f (some c))) :
    Reads loose Q (Regex.peek >>= f) :=
  .peek ends.takes (fun s holds _ => same ▸ ends.near s holds) here

/-- A character has to be there, and a parenthesis is one. -/
theorem peek_some {f : Option Char → PUnit → Parse α} (takes : ∀ c?, Takes (f c? ()))
    (here : ∀ c, Reads true (At Q c) (f (some c) ())) : Reads true Q (Regex.peek >>= fun c? =>
      if c?.isNone = true then Alternative.failure >>= f c? else f c? ()) := by
  refine .peek (.failed _) (fun s _ ends => ?_) fun c => here c
  exact .of_takes ends rfl (takes _)

/-- A look for one character other than the parenthesis. -/
theorem peek_ite {c : Char} {x y : Parse α} (other : ')' ≠ c) (yes : Reads loose (At Q c) x)
    (no : Reads loose Q y) :
    Reads loose Q (Regex.peek >>= fun c? => if (c? == some c) = true then x else y) := by
  refine ⟨.bind .peek fun _ => .ite yes.takes no.takes, fun s holds => ?_⟩
  refine .of_peek (fun _ => ?_) fun d cs rest => ?_
  · have unlike : ¬ (some ')' == some c) = true :=
      fun same => other (Option.some.inj (beq_iff_eq.mp same))
    rw [if_neg unlike]
    exact no.near s holds
  · split
    · next same =>
      cases beq_iff_eq.mp same
      exact yes.near s ⟨holds, cs, rest⟩
    · exact no.near s holds

end Reads

/-! ## Characters -/

section
variable {s : State} {c : Char} {cs : List Char}

theorem passes_next (rest : s.rest = c :: cs) : Passes next s c { s with rest := cs } :=
  ⟨by rw [next, rest], fun r => by simp only [next, State.closed, rest, List.cons_append]⟩

theorem passes_bump (rest : s.rest = c :: cs) : Passes bump s () { s with rest := cs } :=
  ⟨by rw [bump, rest]; rfl, fun r => by rw [bump, State.closed, rest]; rfl⟩

end

theorem dropWhile_closed {p : Char → Bool} (stops : p ')' = false) (cs r : List Char) :
    (cs ++ ')' :: r).dropWhile p = cs.dropWhile p ++ ')' :: r := by
  induction cs with
  | nil => simp [stops]
  | cons c cs ih =>
      cases accepted : p c with
      | true => simp only [List.cons_append, List.dropWhile_cons, accepted, if_true, ih]
      | false => simp [accepted]

theorem dropComment_cons (c : Char) (cs : List Char) :
    dropComment (c :: cs) = if c = '\n' then cs else dropComment cs := by
  unfold dropComment
  rw [List.dropWhile_cons]
  split_ifs <;> simp_all

theorem dropComment_closed {cs : List Char} (ends : '\n' ∈ cs) (t : List Char) :
    dropComment (cs ++ t) = dropComment cs ++ t := by
  induction cs with
  | nil => cases ends
  | cons c cs ih =>
      rw [List.cons_append, dropComment_cons, dropComment_cons]
      split_ifs with line
      · rfl
      · exact ih (List.mem_of_ne_of_mem (Ne.symm line) ends)

theorem dropComment_open {cs : List Char} (plain : '\n' ∉ cs) (t : List Char) :
    dropComment (cs ++ t) = dropComment t := by
  induction cs with
  | nil => rfl
  | cons c cs ih =>
      obtain ⟨other, plain⟩ := List.ne_and_not_mem_of_not_mem_cons plain
      rw [List.cons_append, dropComment_cons, if_neg other.symm, ih plain]

theorem dropComment_plain {cs : List Char} (plain : '\n' ∉ cs) : dropComment cs = [] := by
  have := dropComment_open plain []
  rwa [List.append_nil] at this

theorem dropVerbose_nil (fuel : Nat) : dropVerbose fuel [] = [] := by
  cases fuel <;> rfl

theorem dropVerbose_parenthesis (fuel : Nat) (r : List Char) :
    dropVerbose fuel (')' :: r) = ')' :: r := by
  cases fuel <;> rfl

/-- Blanks and comments end where they did, or the last comment goes on behind the parenthesis. -/
theorem dropVerbose_closed (fuel : Nat) {cs : List Char} (enough : cs.length ≤ fuel) :
    (∀ more r, fuel ≤ more → dropVerbose more (cs ++ ')' :: r) = dropVerbose fuel cs ++ ')' :: r) ∨
      dropVerbose fuel cs = [] ∧ ∀ more r, fuel ≤ more → dropVerbose more (cs ++ ')' :: r) <:+ r ∧
        ('\n' ∉ r → dropVerbose more (cs ++ ')' :: r) = []) := by
  induction fuel generalizing cs with
  | zero =>
      cases List.length_eq_zero_iff.mp (Nat.le_zero.mp enough)
      exact .inl fun more r _ => dropVerbose_parenthesis more r
  | succ fuel ih =>
      have blanks := dropWhile_closed (p := isBlank) (by decide) cs
      have fewer := (List.dropWhile_suffix isBlank (l := cs)).length_le
      have unroll : ∀ more r, fuel + 1 ≤ more → dropVerbose more (cs ++ ')' :: r) =
          dropMarked (more - 1) (cs.dropWhile isBlank ++ ')' :: r) := by
        intro more r le
        obtain ⟨more, rfl⟩ := Nat.exists_eq_add_of_le' (Nat.le_of_add_left_le le)
        rw [dropVerbose_succ, blanks]
        rfl
      rw [dropVerbose_succ]
      generalize cs.dropWhile isBlank = q at fewer unroll ⊢
      cases q with
      | nil => exact .inl fun more r le => (unroll more r le).trans (dropMarked_other (by decide))
      | cons c q =>
          by_cases number : c = '#'
          · subst number
            have short : (dropComment q).length ≤ fuel := by
              have := (dropComment_suffix q).length_le
              rw [List.length_cons] at fewer
              omega
            have less : ∀ {more}, fuel + 1 ≤ more → fuel ≤ more - 1 := Nat.le_sub_one_of_lt
            -- A comment whose line ends is dropped in both; one that does not takes the parenthesis.
            by_cases ends : '\n' ∈ q
            · have same : ∀ more r, fuel + 1 ≤ more → dropVerbose more (cs ++ ')' :: r) =
                  dropVerbose (more - 1) (dropComment q ++ ')' :: r) := fun more r le =>
                (unroll more r le).trans (congrArg (dropVerbose _) (dropComment_closed ends _))
              rcases ih short with kept | ⟨spent, lost⟩
              · exact .inl fun more r le => (same more r le).trans (kept _ r (less le))
              · refine .inr ⟨spent, fun more r le => ?_⟩
                rw [same more r le]
                exact lost _ r (less le)
            · refine .inr ⟨?_, fun more r le => ?_⟩
              · exact (congrArg (dropVerbose fuel) (dropComment_plain ends)).trans (dropVerbose_nil fuel)
              · have same := (unroll more r le).trans (congrArg (dropVerbose _) (dropComment_open ends _))
                rw [same, dropComment_cons, if_neg (by decide)]
                refine ⟨(Takes.dropVerbose _ _).trans (dropComment_suffix r), fun plain => ?_⟩
                rw [dropComment_plain plain, dropVerbose_nil]
          · refine .inl fun more r le => (unroll more r le).trans ?_
            rw [dropMarked_other number]
            exact dropMarked_other number

theorem local_skipSpace (s : State) : Local skipSpace s := by
  cases verbose : s.flags.verbose with
  | false =>
      refine .kept fun r => ?_
      simp only [skipSpace, State.closed, verbose]
      rfl
  | true =>
      have le : ∀ r, s.rest.length ≤ (s.rest ++ ')' :: r).length := by simp
      have closed : ∀ r, skipSpace (s.closed r) = some ((), { s with
          rest := dropVerbose (s.rest ++ ')' :: r).length (s.rest ++ ')' :: r) }) := by
        intro r
        simp only [skipSpace, State.closed, verbose]
        rfl
      have own : skipSpace s = some ((), { s with rest := dropVerbose s.rest.length s.rest }) := by
        simp only [skipSpace, verbose]
        rfl
      rw [Local, own, funext closed]
      rcases dropVerbose_closed s.rest.length (Nat.le_refl _) with kept | ⟨spent, lost⟩
      · exact .kept fun r => by simp only [kept _ r (le r)]; rfl
      · refine .lost ⟨?_, ?_, ?_⟩
        · rintro x ⟨⟩
          exact spent
        · rintro x ⟨⟩ r plain
          simp only [(lost _ r (le r)).2 plain, spent]
        · rintro r x ⟨⟩
          exact (lost _ r (le r)).1

theorem prefix_closed {word : List Char} (plain : ')' ∉ word) (cs r : List Char) :
    word <+: cs ++ ')' :: r ↔ word <+: cs := by
  constructor
  · intro found
    refine List.prefix_of_prefix_length_le found (List.prefix_append cs _) ?_
    refine Nat.le_of_not_lt fun longer => plain ?_
    obtain ⟨more, same⟩ := found
    have here := congrArg (fun l => l[cs.length]?) same
    rw [List.getElem?_append_left longer, List.getElem?_append_right (Nat.le_refl _)] at here
    simp only [Nat.sub_self, List.getElem?_cons_zero] at here
    exact List.mem_of_getElem? here
  · exact fun found => found.trans (List.prefix_append cs _)

theorem closed_rest {s : State} (ends : s.rest = []) (r : List Char) :
    (s.closed r).rest = ')' :: r := by
  rw [State.closed, ends]
  rfl

namespace Reads
variable {loose : Bool} {Q : State → Prop}

theorem flags : Reads loose Q flags := ⟨.flags, fun _ _ => .kept fun _ => rfl⟩

theorem setFlags (f : Flags) : Reads loose Q (setFlags f) := ⟨.setFlags f, fun _ _ => .kept fun _ => rfl⟩

theorem skipSpace : Reads loose Q skipSpace := .loosen ⟨.skipSpace, fun s _ => local_skipSpace s⟩

theorem next : Reads loose Q next := by
  refine .loosen ⟨.next, fun s _ => ?_⟩
  cases rest : s.rest with
  | nil => exact .of_advances rest (by rw [Regex.next, rest]) fun r => next_advances _
  | cons c cs => exact (passes_next rest).within

theorem expect (c : Char) : Reads loose Q (expect c) :=
  .bind .next fun _ => .ite .failure (.pure _)

theorem bump (filled : ∀ s, Q s → Filled s) : Reads loose Q bump :=
  ⟨.bump, fun s here => let ⟨_, _, rest⟩ := filled s here; (passes_bump rest).within⟩

theorem bumpSpace (filled : ∀ s, Q s → Filled s) : Reads loose Q bumpSpace :=
  .bind (.bump filled) fun _ => .skipSpace

theorem skipBlanks : Reads loose Q skipBlanks := by
  refine ⟨.skipBlanks, fun s _ => .kept fun r => ?_⟩
  rw [Regex.skipBlanks, State.closed, dropWhile_closed (by decide)]
  rfl

/-- A word without a parenthesis is looked for. -/
theorem bumpIf {word : String} (plain : ')' ∉ word.toList) : Reads loose Q (bumpIf word) := by
  refine ⟨.bumpIf word, fun s _ => .kept fun r => ?_⟩
  have same : word.toList.isPrefixOf (s.rest ++ ')' :: r) = word.toList.isPrefixOf s.rest := by
    rw [Bool.eq_iff_iff, List.isPrefixOf_iff_prefix, List.isPrefixOf_iff_prefix, prefix_closed plain]
  unfold Regex.bumpIf
  rw [State.closed, same]
  split
  · next found =>
    have le := (List.isPrefixOf_iff_prefix.mp found).length_le
    rw [List.drop_append_of_le_length (String.length_toList ▸ le)]
    rfl
  · rfl

end Reads

/-! ## Loops -/

namespace Fueled
variable {ι : Type} {γ : ι → Type} (l : Fueled ι γ)

/-- What a step keeps, if its calls do, a run keeps. -/
theorem reads_whole {loose : Bool} {Q : State → Prop}
    (step : ∀ i n, (∀ j, Reads loose (fun s => l.cost j s < n) (l.whole j)) →
      Reads loose (fun s => l.cost i s = n) (l.step l.whole i)) (i : ι) : Reads loose Q (l.whole i) := by
  have all : ∀ n i, Reads loose (fun s => l.cost i s < n) (l.whole i) := by
    intro n
    induction n with
    | zero => exact fun i => ⟨l.takes_whole i, fun s less => absurd less (Nat.not_lt_zero _)⟩
    | succ n ih =>
        refine fun i => ⟨l.takes_whole i, fun s less => ?_⟩
        rcases Nat.lt_succ_iff_lt_or_eq.mp less with less | same
        · exact (ih i).near s less
        · simp only [l.whole_eq]
          exact (step i n ih).near s same
  exact ⟨l.takes_whole i, fun s _ => (all _ i).near s (Nat.lt_succ_self _)⟩

end Fueled

theorem reads_until {loose : Bool} {Q : State → Prop} {stop : Char} (other : ')' ≠ stop) :
    Reads loose Q ((untilLoop stop).whole ()) := by
  refine .loosen ((untilLoop stop).reads_whole (fun _ n more => ?_) ())
  refine .peek .failure (fun s _ ends => ?_) fun c => ?_
  · refine .of_advances ends rfl fun r => ?_
    dsimp only
    rw [if_neg other]
    exact (bumpSpace_advances (closed_rest ends r)).bind fun _ => .bind (more ()).takes fun _ => .pure _
  · refine .ite (.pure _) (.bind (.bumpSpace At.filled) fun _ => .bind ?_ fun cs => .pure _)
    refine (more ()).weaken fun s' ⟨s, ⟨same, cs, rest⟩, bumped⟩ => ?_
    exact Nat.lt_of_lt_of_eq ((bumpSpace_advances rest).length_lt bumped) same

theorem reads_span {loose : Bool} {Q : State → Prop} {accepts : Char → Bool} {run : Nat → Parse (List Char)}
    {takes_zero run_succ} (stops : accepts ')' = false) :
    Reads loose Q ((spanLoop accepts run takes_zero run_succ).whole ()) := by
  refine .loosen ((spanLoop accepts run takes_zero run_succ).reads_whole (fun _ n more => ?_) ())
  refine .peek (.pure _) (fun s _ ends => ?_) fun c => ?_
  · dsimp only
    rw [stops]
    exact .pure _
  · refine .ite (.bind (.bumpSpace At.filled) fun _ => .bind ?_ fun cs => .pure _) (.pure _)
    refine (more ()).weaken fun s' ⟨s, ⟨same, cs, rest⟩, bumped⟩ => ?_
    exact Nat.lt_of_lt_of_eq ((bumpSpace_advances rest).length_lt bumped) same

/-- Where dashes end the pattern, the parenthesis ends them. -/
theorem reads_dashes {Q : State → Prop} (u : Union) : Reads true Q (dashLoop.whole u) := by
  refine dashLoop.reads_whole (fun u n more => ?_) u
  refine .peek .failure (fun s _ ends => .of_takes ends rfl (.pure u)) fun c => ?_
  refine .ite (.bind (.bumpSpace At.filled) fun _ => ?_) (.pure _)
  refine (more _).weaken fun s' ⟨s, ⟨same, cs, rest⟩, bumped⟩ => ?_
  exact Nat.lt_of_lt_of_eq ((bumpSpace_advances rest).length_lt bumped) same

theorem reads_letters {loose : Bool} {Q : State → Prop} (l : Letters) :
    Reads loose Q (letterLoop.whole l) := by
  refine .loosen (letterLoop.reads_whole (fun l n more => ?_) l)
  have fewer : ∀ l c s', After (fun s => letterLoop.cost l s = n) next c s' →
      letterLoop.cost l s' < n := by
    rintro l c s' ⟨s, same, taken⟩
    exact Nat.lt_of_lt_of_eq ((next_advances s).length_lt taken) same
  refine .bind .next fun c => .ite (.ite .failure (.pure _)) (.ite .failure (.ite ?_ ?_))
  · exact (more _).weaken fun s' after => fewer l c s' after
  · refine .bind (.lift _) fun f => (more _).weaken fun s'' ⟨s', after, lifted⟩ => ?_
    exact Nat.lt_of_le_of_lt ((Takes.lift _).length_le lifted) (fewer l c s' after)

end HeatStack.Regex
