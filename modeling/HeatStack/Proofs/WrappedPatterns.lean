import HeatStack.Proofs.PhraseReading
import HeatStack.Template.Constraint

/-! # Patterns within a group

The pattern of a clause is put between `^(?:` and `)$` and has to be an expression there.  What becomes
of it depends on where the pattern stops when it is read alone: at its end, before a parenthesis that
closes nothing, or in a comment that goes on behind it. -/
set_option autoImplicit false
namespace HeatStack.Regex
open HeatStack.Text HeatStack.Unicode

/-- What is read from the start of a text, and where that stops. -/
def readFrom (cs : List Char) : Option (Part × State) :=
  alternatives (2 * cs.length + 4) [] ⟨cs, .initial, []⟩

theorem readFrom_whole (cs : List Char) :
    readFrom cs = grammar.whole (.alternatives []) ⟨cs, .initial, []⟩ :=
  grammar.run_eq_whole (n := 2 * cs.length + 4) (i := .alternatives []) (Nat.add_lt_add_left (by decide) _)

/-- What a text is that is read to its end, however large it is. -/
def partOf? (cs : List Char) : Option Part :=
  (readFrom cs).bind fun r => if r.2.rest.isEmpty then some r.1 else none

def Part.fits (p : Part) : Bool := p.depth ≤ nestingLimit && p.expr.fits

theorem parse?_eq (pattern : String) :
    Expr.parse? pattern = ((partOf? pattern.toList).filter Part.fits).map Part.expr := by
  have unfolded : Expr.parse? pattern = (readFrom pattern.toList).bind fun r =>
      if r.2.rest.isEmpty && r.1.depth ≤ nestingLimit && r.1.expr.fits then some r.1.expr else none := rfl
  rw [unfolded, partOf?]
  cases readFrom pattern.toList with
  | none => rfl
  | some r =>
      simp only [Option.bind_some, Bool.and_assoc]
      cases r.2.rest.isEmpty with
      | false => rfl
      | true =>
          simp only [Bool.true_and, if_true]
          change (if r.1.fits = true then some r.1.expr else none) = _
          cases fits : r.1.fits <;> simp [Option.filter, fits]

theorem partOf?_eq_some {cs : List Char} {p : Part} :
    partOf? cs = some p ↔ ∃ s, readFrom cs = some (p, s) ∧ s.rest = [] := by
  unfold partOf?
  rw [Option.bind_eq_some_iff]
  constructor
  · rintro ⟨⟨p', s⟩, read, ends⟩
    split at ends
    · next empty =>
      cases ends
      exact ⟨s, read, List.isEmpty_iff.mp empty⟩
    · cases ends
  · rintro ⟨s, read, ends⟩
    exact ⟨(p, s), read, if_pos (List.isEmpty_iff.mpr ends)⟩

/-! ## Parentheses that close nothing -/

theorem readFrom_within (cs : List Char) :
    Within false (readFrom cs) fun r => readFrom (cs ++ ')' :: r) := by
  have reads : Reads false (fun _ => True) (grammar.whole (.alternatives [])) := reads_phrase _
  simp only [readFrom_whole]
  exact reads.near ⟨cs, .initial, []⟩ trivial

/-- Where reading stops at a parenthesis, what is before it is complete, and not with it. -/
theorem complete_of_stops {cs r : List Char} {p : Part} {s : State}
    (read : readFrom (cs ++ ')' :: r) = some (p, s)) (rest : s.rest = ')' :: r) :
    partOf? cs = some p ∧ partOf? (cs ++ [')']) = none := by
  cases readFrom_within cs with
  | kept same =>
      obtain ⟨⟨p', s'⟩, own, found⟩ := Option.map_eq_some_iff.mp ((same r).symm.trans read)
      cases found
      have ends : s'.rest = [] := by
        change s'.rest ++ ')' :: r = ')' :: r at rest
        exact List.append_left_eq_self.mp rest
      refine ⟨partOf?_eq_some.mpr ⟨s', own, ends⟩, ?_⟩
      rw [partOf?, same [], own, Option.map_some, Option.bind_some, closed_rest ends]
      rfl
  | lost past =>
      have within := past.past r _ read
      rw [rest] at within
      exact absurd within.length_le (by simp [behind])

/-- With a parenthesis behind, reading stops where it did, or it takes the parenthesis and all of the
line. -/
theorem readFrom_closed {cs : List Char} {p : Part} {s : State} (own : readFrom cs = some (p, s)) :
    (∀ r, readFrom (cs ++ ')' :: r) = some (p, s.closed r)) ∨
      ∀ r, '\n' ∉ r → readFrom (cs ++ ')' :: r) = some (p, s) := by
  cases readFrom_within cs with
  | kept same => exact .inl fun r => (same r).trans (by rw [own]; rfl)
  | lost past => exact .inr fun r plain => past.swallowed _ own r plain

/-- What is complete, and not with a parenthesis behind it, stops before the parenthesis. -/
theorem stops_of_complete {cs : List Char} {p : Part} (own : partOf? cs = some p)
    (unclosed : partOf? (cs ++ [')']) = none) (r : List Char) :
    ∃ s, readFrom (cs ++ ')' :: r) = some (p, s) ∧ s.rest = ')' :: r := by
  obtain ⟨s, read, ends⟩ := partOf?_eq_some.mp own
  rcases readFrom_closed read with stops | taken
  · exact ⟨s.closed r, stops r, closed_rest ends r⟩
  · have complete := partOf?_eq_some.mpr ⟨s, taken [] List.not_mem_nil, ends⟩
    cases unclosed.symm.trans complete

theorem taken_of_complete {cs : List Char} {p q : Part} (own : partOf? cs = some p)
    (closed : partOf? (cs ++ [')']) = some q) {r : List Char} (line : '\n' ∉ r) :
    ∃ s, readFrom (cs ++ ')' :: r) = some (p, s) ∧ s.rest = [] := by
  obtain ⟨s, read, ends⟩ := partOf?_eq_some.mp own
  rcases readFrom_closed read with stops | taken
  · obtain ⟨s', again, ended⟩ := partOf?_eq_some.mp closed
    cases (stops []).symm.trans again
    cases (closed_rest ends []).symm.trans ended
  · exact ⟨s, taken r line, ends⟩

/-! ## The group around a pattern -/

/-- A pattern as it is looked for. -/
def wrap (cs : List Char) : List Char := '^' :: '(' :: '?' :: ':' :: (cs ++ [')', '$'])

/-- A part that has to span a whole text. -/
def Part.anchored (p : Part) : Part :=
  ⟨.sequence [.look .textStart, p.expr, .look .textEnd], p.depth + 2⟩

/-- What comes behind the first of some alternatives. -/
def alternativesBehind (p : Part) : Parse Part := do
  if (← peek) == some '|' then
    bump
    grammar.whole (.alternatives [p])
  else return choicePart [p]

theorem readFrom_eq (cs : List Char) :
    readFrom cs = (grammar.whole (.row []) >>= alternativesBehind) ⟨cs, .initial, []⟩ := by
  rw [readFrom_whole, grammar.whole_eq]
  rfl

/-- The parenthesis that closes a group with a text in it, and what is behind it. -/
def groupEnd (p : Part) : Parse Part := do
  expect ')'
  setFlags .initial
  grammar.whole (.row [some ⟨p.expr, p.depth + 1⟩, some ⟨.look .textStart, 0⟩])

theorem readFrom_group (cs : List Char) : readFrom ('^' :: '(' :: '?' :: ':' :: cs) =
    (readFrom cs).bind fun r => (groupEnd r.1 >>= alternativesBehind) r.2 := by
  have start : ∀ cs, grammar.whole (.row []) ⟨'^' :: cs, .initial, []⟩ =
      grammar.whole (.row [some ⟨.look .textStart, 0⟩]) ⟨cs, .initial, []⟩ := by
    intro cs
    rw [grammar.whole_eq]
    rfl
  have group : grammar.whole (.row [some ⟨.look .textStart, 0⟩]) ⟨'(' :: '?' :: ':' :: cs, .initial, []⟩ =
      (readFrom cs).bind fun r => groupEnd r.1 r.2 := by
    rw [readFrom_whole, grammar.whole_eq]
    rfl
  -- The group sets no flags, so what is in it is read as it is alone.
  rw [readFrom_eq, bind_run, start, group, Option.bind_assoc]
  rfl

theorem parenthesis_of_groupEnd {p q : Part} {s s' : State}
    (read : (groupEnd p >>= alternativesBehind) s = some (q, s')) : ∃ r, s.rest = ')' :: r := by
  obtain ⟨_, s₁, grouped, -⟩ := bind_eq_some.mp read
  obtain ⟨_, s₂, closed, -⟩ := bind_eq_some.mp grouped
  obtain ⟨c, s₃, taken, same⟩ := bind_eq_some.mp closed
  split at same
  · cases same
  · next equal =>
    unfold next at taken
    split at taken
    · next d r rest =>
      cases taken
      exact ⟨r, rest.trans (by simpa using equal)⟩
    · cases taken

theorem groupEnd_whole {p : Part} {s : State} (rest : s.rest = [')', '$']) :
    (groupEnd p >>= alternativesBehind) s = some (p.anchored, ⟨[], .initial, s.names⟩) := by
  have part : sequencePart [some ⟨.look .textStart, 0⟩, some ⟨p.expr, p.depth + 1⟩, some ⟨.look .textEnd, 0⟩] =
      p.anchored := by
    unfold Part.anchored sequencePart
    simp
  have dollar : grammar.whole (.row [some ⟨p.expr, p.depth + 1⟩, some ⟨.look .textStart, 0⟩])
      ⟨['$'], .initial, s.names⟩ = some (p.anchored, ⟨[], .initial, s.names⟩) := by
    rw [← part, grammar.whole_eq]
    change grammar.whole (.row [some ⟨.look .textEnd, 0⟩, some ⟨p.expr, p.depth + 1⟩,
      some ⟨.look .textStart, 0⟩]) ⟨[], .initial, s.names⟩ = _
    rw [grammar.whole_eq]
    rfl
  have grouped : groupEnd p s = grammar.whole (.row [some ⟨p.expr, p.depth + 1⟩, some ⟨.look .textStart, 0⟩])
      ⟨['$'], .initial, s.names⟩ := by
    rw [groupEnd, bind_run, expect, bind_run, next, rest]
    rfl
  rw [bind_run, grouped, dollar]
  rfl

theorem readFrom_wrap (cs : List Char) : readFrom (wrap cs) =
    (readFrom (cs ++ [')', '$'])).bind fun r => (groupEnd r.1 >>= alternativesBehind) r.2 :=
  readFrom_group _

/-- A complete pattern is complete in the group, unless the parenthesis of the group is lost in it. -/
theorem partOf?_wrap {cs : List Char} {p : Part} (own : partOf? cs = some p) :
    partOf? (wrap cs) = if (partOf? (cs ++ [')'])).isSome then none else some p.anchored := by
  cases shut : partOf? (cs ++ [')']) with
  | none =>
      obtain ⟨s, read, rest⟩ := stops_of_complete own shut ['$']
      refine partOf?_eq_some.mpr ⟨⟨[], .initial, s.names⟩, ?_, rfl⟩
      rw [readFrom_wrap, read]
      exact groupEnd_whole rest
  | some q =>
      -- The pattern takes the parenthesis, and none is left to close the group.
      obtain ⟨s, read, ends⟩ := taken_of_complete own shut (r := ['$']) (by decide)
      refine Option.eq_none_iff_forall_ne_some.mpr fun q wrapped => ?_
      obtain ⟨s', wrapped, -⟩ := partOf?_eq_some.mp wrapped
      rw [readFrom_wrap, read] at wrapped
      obtain ⟨r, rest⟩ := parenthesis_of_groupEnd wrapped
      cases ends.symm.trans rest

/-- What is complete in the group is complete alone, or it has a parenthesis that closes nothing. -/
theorem of_partOf?_wrap {cs : List Char} {q : Part} (wrapped : partOf? (wrap cs) = some q) :
    (partOf? cs).isSome ∨ ∃ a b, cs = a ++ ')' :: b ∧ (partOf? a).isSome ∧ partOf? (a ++ [')']) = none := by
  obtain ⟨s', read, -⟩ := partOf?_eq_some.mp wrapped
  rw [readFrom_wrap] at read
  obtain ⟨⟨p, s⟩, inner, outer⟩ := Option.bind_eq_some_iff.mp read
  obtain ⟨r, rest⟩ := parenthesis_of_groupEnd outer
  cases readFrom_within cs with
  | lost past =>
      -- Past the parenthesis only the last mark can be left, which does not close the group.
      have within := past.past ['$'] _ inner
      rw [rest] at within
      exact absurd (within.subset List.mem_cons_self) (by decide)
  | kept same =>
      obtain ⟨⟨p', s₁⟩, own, found⟩ := Option.map_eq_some_iff.mp ((same ['$']).symm.trans inner)
      cases found
      cases ends : s₁.rest with
      | nil => exact .inl (Option.isSome_iff_exists.mpr ⟨_, partOf?_eq_some.mpr ⟨s₁, own, ends⟩⟩)
      | cons c b =>
          change s₁.rest ++ [')', '$'] = ')' :: r at rest
          rw [ends] at rest
          cases rest
          obtain ⟨a, rfl⟩ : s₁.rest <:+ cs :=
            grammar.takes_whole (.alternatives []) _ _ ((readFrom_whole cs).symm.trans own)
          rw [ends] at own ⊢
          obtain ⟨before, shut⟩ := complete_of_stops own ends
          exact .inr ⟨a, b, rfl, Option.isSome_iff_exists.mpr ⟨_, before⟩, shut⟩

/-! ## Limits -/

/-- The part is within the limits with the group and the marks around it. -/
def Part.hasRoom (p : Part) : Bool :=
  p.depth + 2 ≤ nestingLimit && p.expr.size false + 2 * stateSize ≤ sizeLimit &&
    p.expr.size true + 2 * stateSize ≤ sizeLimit

theorem fits_anchored (p : Part) : p.anchored.fits = p.hasRoom := by
  have size : ∀ reverse, p.anchored.expr.size reverse = p.expr.size reverse + 2 * stateSize := by
    intro reverse
    simp only [Part.anchored, Expr.size, sequenceSize]
    omega
  simp only [Part.fits, Expr.fits, Part.hasRoom, size, Bool.and_assoc]
  rfl

theorem fits_of_hasRoom {p : Part} (room : p.hasRoom = true) : p.fits = true := by
  simp only [Part.hasRoom, Part.fits, Expr.fits, Bool.and_eq_true, decide_eq_true_eq] at room ⊢
  omega

/-! ## Patterns -/

/-- The text is an expression, however large it is. -/
def WellFormed (pattern : String) : Prop := (partOf? pattern.toList).isSome = true

/-- The text is an expression within the limits. -/
def Valid (pattern : String) : Prop := (Expr.parse? pattern).isSome = true

/-- No parenthesis ends an expression: where one follows what is complete, it is in a comment. -/
def Balanced (pattern : String) : Prop :=
  ∀ a b, pattern = a ++ ")" ++ b → WellFormed a → WellFormed (a ++ ")")

/-- With a group around it the expression is within the limits. -/
def HasRoom (pattern : String) : Prop := (partOf? pattern.toList).any Part.hasRoom = true

instance (pattern : String) : Decidable (WellFormed pattern) := inferInstanceAs (Decidable (_ = true))

instance (pattern : String) : Decidable (Valid pattern) := inferInstanceAs (Decidable (_ = true))

instance (pattern : String) : Decidable (HasRoom pattern) := inferInstanceAs (Decidable (_ = true))

theorem valid_iff {pattern : String} : Valid pattern ↔ (partOf? pattern.toList).any Part.fits = true := by
  rw [Valid, parse?_eq]
  cases partOf? pattern.toList with
  | none => rfl
  | some p => cases fits : p.fits <;> simp [Option.filter, fits]

theorem Valid.wellFormed {pattern : String} (valid : Valid pattern) : WellFormed pattern := by
  rw [valid_iff] at valid
  unfold WellFormed
  cases own : partOf? pattern.toList with
  | none => rw [own] at valid; cases valid
  | some p => rfl

theorem toList_closed (pattern : String) : (pattern ++ ")").toList = pattern.toList ++ [')'] := by
  rw [String.toList_append]
  rfl

/-- What is read to its end has no parenthesis that ends an expression. -/
theorem WellFormed.balanced {pattern : String} (complete : WellFormed pattern) : Balanced pattern := by
  rintro a b rfl before
  by_contra unclosed
  obtain ⟨p, own⟩ := Option.isSome_iff_exists.mp before
  unfold WellFormed at unclosed
  rw [toList_closed, Option.not_isSome_iff_eq_none] at unclosed
  obtain ⟨s, read, rest⟩ := stops_of_complete own unclosed b.toList
  obtain ⟨q, whole⟩ := Option.isSome_iff_exists.mp complete
  obtain ⟨s', again, ends⟩ := partOf?_eq_some.mp whole
  have text : (a ++ ")" ++ b).toList = a.toList ++ ')' :: b.toList := by
    rw [String.toList_append, toList_closed, List.append_assoc]
    rfl
  rw [text, read] at again
  cases again
  cases ends.symm.trans rest

/-- A balanced pattern that is complete in the group is complete alone. -/
theorem wellFormed_of_wrap {pattern : String} (balanced : Balanced pattern) {q : Part}
    (wrapped : partOf? (wrap pattern.toList) = some q) : WellFormed pattern := by
  rcases of_partOf?_wrap wrapped with complete | ⟨a, b, text, before, unclosed⟩
  · exact complete
  · have here : pattern = String.ofList a ++ ")" ++ String.ofList b := by
      refine String.toList_inj.mp ?_
      rw [text, String.toList_append, toList_closed, String.toList_ofList, String.toList_ofList,
        List.append_assoc]
      rfl
    have complete : WellFormed (String.ofList a) := by
      rwa [WellFormed, String.toList_ofList]
    have closed := balanced _ _ here complete
    rw [WellFormed, toList_closed, String.toList_ofList, unclosed] at closed
    cases closed

end HeatStack.Regex

namespace HeatStack.Template
open HeatStack.Regex

theorem fullMatch?_eq (pattern : String) : Constraint.fullMatch? pattern =
    ((partOf? (wrap pattern.toList)).filter Part.fits).map Part.expr := by
  have text : ("^(?:" ++ pattern ++ ")$").toList = wrap pattern.toList := by
    rw [String.toList_append, String.toList_append]
    rfl
  rw [Constraint.fullMatch?, parse?_eq, text]

/-- The pattern that is looked for is the pattern alone, from the start of the value to its end. -/
theorem fullMatch?_valid {pattern : String} {e e' : Expr} (own : Expr.parse? pattern = some e)
    (full : Constraint.fullMatch? pattern = some e') :
    e' = .sequence [.look .textStart, e, .look .textEnd] := by
  rw [parse?_eq] at own
  obtain ⟨p, found, rfl⟩ := Option.map_eq_some_iff.mp own
  have complete := (Option.filter_eq_some_iff.mp found).1
  rw [fullMatch?_eq, partOf?_wrap complete] at full
  obtain ⟨q, found, rfl⟩ := Option.map_eq_some_iff.mp full
  have whole := (Option.filter_eq_some_iff.mp found).1
  split at whole
  · cases whole
  · cases whole
    rfl

/-- An entry of constraints with a pattern alone. -/
def patternEntry (pattern : String) : Yaml.Value := .mapping [(.string "allowed_pattern", .string pattern)]

theorem ofValue?_patternEntry (pattern : String) : Constraint.ofValue? (patternEntry pattern) =
    (Constraint.fullMatch? pattern).map fun _ =>
      .allowedPattern pattern ("must match pattern " ++ pattern) := rfl

/-- A pattern that has no parenthesis too many is kept if it is valid, does not end in a comment that
would go on over the group's parenthesis, and leaves room for the group.  A valid one has none too many. -/
theorem patternEntry_kept (pattern : String) :
    (Balanced pattern → ((Constraint.ofValue? (patternEntry pattern)).isSome = true ↔
        Valid pattern ∧ ¬ WellFormed (pattern ++ ")") ∧ HasRoom pattern)) ∧
      (Valid pattern → Balanced pattern) := by
  refine ⟨fun balanced => ?_, fun valid => valid.wellFormed.balanced⟩
  rw [ofValue?_patternEntry, Option.isSome_map, fullMatch?_eq, Option.isSome_map, valid_iff, HasRoom,
    WellFormed, toList_closed]
  constructor
  · intro kept
    obtain ⟨q, found⟩ := Option.isSome_iff_exists.mp kept
    obtain ⟨whole, fits⟩ := Option.filter_eq_some_iff.mp found
    obtain ⟨p, own⟩ := Option.isSome_iff_exists.mp (wellFormed_of_wrap balanced whole)
    rw [partOf?_wrap own] at whole
    split at whole
    · cases whole
    · next unclosed =>
      cases whole
      rw [fits_anchored] at fits
      rw [own]
      exact ⟨fits_of_hasRoom fits, unclosed, fits⟩
  · rintro ⟨-, unclosed, room⟩
    cases own : partOf? pattern.toList with
    | none => rw [own] at room; cases room
    | some p =>
        rw [own, Option.any_some] at room
        rw [partOf?_wrap own, if_neg unclosed]
        exact Option.isSome_iff_exists.mpr ⟨_, Option.filter_eq_some_iff.mpr ⟨rfl, (fits_anchored p).trans room⟩⟩

theorem patternEntry_kept_letters : (Constraint.ofValue? (patternEntry "([a-z]+)")).isSome = true := by
  have valid : Valid "([a-z]+)" := by decide +kernel
  have balanced := (patternEntry_kept "([a-z]+)").2 valid
  exact ((patternEntry_kept "([a-z]+)").1 balanced).mpr ⟨valid, by decide +kernel, by decide +kernel⟩

/-- A pattern with a parenthesis too many is kept, and admits what it matches in part; a valid one that
ends in a comment is dropped. -/
theorem patternEntry_misread :
    ((Constraint.ofValue? (patternEntry "a)|(?:b")).isSome = true ∧ ¬ Valid "a)|(?:b" ∧
      (Constraint.allowedPattern "a)|(?:b" "").admits .string "ac" = true) ∧
      Valid "(?x)a#" ∧ (Constraint.ofValue? (patternEntry "(?x)a#")).isSome = false := by
  refine ⟨⟨?_, ?_, ?_⟩, ?_, ?_⟩ <;> decide +kernel

end HeatStack.Template
