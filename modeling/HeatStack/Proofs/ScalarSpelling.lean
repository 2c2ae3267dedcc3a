import HeatStack.Yaml.ScalarText

/-! # How the text of a scalar is spelled

A scalar that is made of letters only stands in the source as it is: gaps leave at least one other
character behind, so it is a single word, and in quotes a word is changed by escapes alone.  `plain?`,
`quoted?` and `block?` are followed with the part of the source that they take. -/
set_option autoImplicit false
namespace HeatStack.Yaml
open HeatStack.Text

/-- Nothing but letters. -/
def Solid (text : List Char) : Prop := ∀ ch ∈ text, isLetter ch = true

def Letterless (text : List Char) : Prop := ∀ ch ∈ text, isLetter ch = false

theorem solid_append {a b : List Char} : Solid (a ++ b) ↔ Solid a ∧ Solid b :=
  List.forall_mem_append

theorem letterless_append {a b : List Char} : Letterless (a ++ b) ↔ Letterless a ∧ Letterless b :=
  List.forall_mem_append

theorem letterless_nil : Letterless [] := fun _ member => nomatch member

theorem Letterless.eq_nil {text : List Char} (none : Letterless text) (all : Solid text) :
    text = [] := by
  cases text with
  | nil => rfl
  | cons ch rest =>
      have letter := all ch (List.mem_cons_self ..)
      rw [none ch (List.mem_cons_self ..)] at letter
      cases letter

theorem not_letter_of_space {ch : Char} (h : isSpace ch = true) : isLetter ch = false := by
  simp only [isSpace, Bool.or_eq_true, beq_iff_eq] at h
  rcases h with rfl | rfl <;> rfl

/-! ## The source behind a cursor -/

namespace Cursor
variable (c : Cursor)

theorem rest_skip : c.skip.rest <:+ c.rest := List.tail_suffix c.rest

theorem rest_skipMany (n : Nat) : (c.skipMany n).rest <:+ c.rest := List.drop_suffix n c.rest

theorem rest_skipWhile (p : Char → Bool) : (c.skipWhile p).rest <:+ c.rest := c.rest_skipMany _

theorem rest_skipLine : c.skipLine.rest <:+ c.rest := c.rest_skipWhile _

/-- Behind the blanks and the comment at the end of a line. -/
def lineEnd (blank : Char → Bool) : Cursor :=
  if (c.skipWhile blank).rest.head? = some '#' then (c.skipWhile blank).skipLine else c.skipWhile blank

theorem rest_lineEnd (blank : Char → Bool) : (c.lineEnd blank).rest <:+ c.rest := by
  unfold lineEnd
  split
  · exact (rest_skipLine _).trans (c.rest_skipWhile blank)
  · exact c.rest_skipWhile blank

theorem skipMany_one : c.skipMany 1 = c.skip := by
  rw [skipMany, skip, List.drop_one]

theorem rest_of_prefix {word : List Char} (front : word <+: c.rest) :
    c.rest = word ++ (c.skipMany word.length).rest := by
  obtain ⟨behind, same⟩ := front
  rw [skipMany, ← same, List.drop_left]

theorem break_behind_line {ch : Char} {r : List Char}
    (here : (c.skipMany (c.rest.takeWhile fun ch => !isBreak ch).length).rest = ch :: r) :
    isBreak ch = true := by
  have whole := c.rest_of_prefix (List.takeWhile_prefix fun ch => !isBreak ch)
  have parts := List.takeWhile_append_dropWhile (p := fun ch => !isBreak ch) (l := c.rest)
  have behind := List.append_cancel_left (parts.trans whole)
  rw [here] at behind
  have first := List.head?_dropWhile_not (fun ch => !isBreak ch) c.rest
  rw [behind] at first
  simpa using first

theorem rest_skipBreak : c.skipBreak.rest <:+ c.rest := by
  unfold skipBreak
  split
  · next r same => exact same ▸ ⟨['\r', '\n'], rfl⟩
  · next b r _ same =>
      split
      · exact same ▸ List.suffix_cons b r
      · exact List.suffix_rfl
  · exact List.suffix_rfl

theorem letterless_breakText : Letterless c.breakText := by
  unfold breakText
  split
  · exact letterless_nil
  · next b _ _ =>
      split
      · next separator =>
          rcases separator with rfl | rfl <;> exact List.forall_mem_singleton.mpr rfl
      · split
        · exact List.forall_mem_singleton.mpr rfl
        · exact letterless_nil

theorem breakText_ne_nil {ch : Char} {r : List Char} (at_ : c.rest = ch :: r)
    (break_ : isBreak ch = true) : c.breakText ≠ [] := by
  simp only [breakText, at_, break_, if_true]
  split <;> exact List.cons_ne_nil _ _

end Cursor

/-! ## Gaps -/

namespace Gap

/-- The characters that a gap stands for, before breaks are folded. -/
def chars : Gap → List Char
  | .blanks cs => cs
  | .breaks first others => first ++ others

/-- A gap with something in it. -/
structure Wide (g : Gap) : Prop where
  some : g.chars ≠ []
  letterless : Letterless g.chars

theorem Wide.not_solid {g : Gap} (wide : g.Wide) : ¬ Solid g.text := by
  intro solid
  cases g with
  | blanks cs => exact wide.some (wide.letterless.eq_nil solid)
  | breaks first others =>
      have letterless := wide.letterless
      simp only [text] at solid
      split at solid
      · split at solid
        · cases solid ' ' (List.mem_cons_self ..)
        · next folded notEmpty =>
            rw [(letterless_append.mp letterless).2.eq_nil solid] at notEmpty
            exact notEmpty rfl
      · exact wide.some (wide.letterless.eq_nil solid)

theorem rest_read? (tabsFrom : Option Int) (fuel : Nat) : ∀ (c d : Cursor) (g g' : Gap),
    read? tabsFrom fuel c g = some (g', d) → d.rest <:+ c.rest := by
  induction fuel with
  | zero =>
      intro c d g g' read
      cases read
      exact List.suffix_rfl
  | succ fuel ih =>
      intro c d g g' read
      unfold read? at read
      split at read
      · cases read
        exact List.suffix_rfl
      · split at read
        · split at read
          · exact (ih _ _ _ _ read).trans c.rest_skip
          · split at read
            · cases read
            · exact (ih _ _ _ _ read).trans c.rest_skip
        · split at read
          · split at read <;> exact (ih _ _ _ _ read).trans c.rest_skipBreak
          · cases read
            exact List.suffix_rfl

theorem wide_blanks {cs : List Char} {ch : Char} (before : Letterless cs)
    (blank : isSpace ch = true) : (Gap.blanks (cs ++ [ch])).Wide :=
  ⟨List.append_ne_nil_of_right_ne_nil _ (List.cons_ne_nil _ _),
    letterless_append.mpr ⟨before, List.forall_mem_singleton.mpr (not_letter_of_space blank)⟩⟩

theorem wide_breaks {c : Cursor} {ch : Char} {r : List Char} (here : c.rest = ch :: r)
    (break_ : isBreak ch = true) : (Gap.breaks c.breakText []).Wide :=
  ⟨List.append_ne_nil_of_left_ne_nil (c.breakText_ne_nil here break_) _,
    letterless_append.mpr ⟨c.letterless_breakText, letterless_nil⟩⟩

theorem wide_read? (tabsFrom : Option Int) (fuel : Nat) : ∀ (c d : Cursor) (g g' : Gap),
    read? tabsFrom fuel c g = some (g', d) → g.Wide → g'.Wide := by
  induction fuel with
  | zero =>
      intro c d g g' read wide
      cases read
      exact wide
  | succ fuel ih =>
      intro c d g g' read wide
      unfold read? at read
      split at read
      · cases read
        exact wide
      · next ch r here =>
          split at read
          · next blank =>
              split at read
              · exact ih _ _ _ _ read (wide_blanks wide.letterless blank)
              · split at read
                · cases read
                · exact ih _ _ _ _ read wide
          · split at read
            · next break_ =>
                split at read
                · exact ih _ _ _ _ read (wide_breaks here break_)
                · next first others =>
                    refine ih _ _ _ _ read ⟨fun none => ?_, ?_⟩
                    · obtain ⟨noFirst, noOthers⟩ := List.append_eq_nil_iff.mp none
                      exact c.breakText_ne_nil here break_ (List.append_eq_nil_iff.mp noOthers).2
                    · obtain ⟨inFirst, inOthers⟩ := letterless_append.mp wide.letterless
                      exact letterless_append.mpr
                        ⟨inFirst, letterless_append.mpr ⟨inOthers, c.letterless_breakText⟩⟩
            · cases read
              exact wide

/-- Where no gap has been read yet, there is one or the cursor stays. -/
theorem wide_or_none (tabsFrom : Option Int) (fuel : Nat) (c d : Cursor) (g : Gap)
    (read : read? tabsFrom fuel c .none = some (g, d)) : g.Wide ∨ (g = .none ∧ d = c) := by
  cases fuel with
  | zero =>
      cases read
      exact .inr ⟨rfl, rfl⟩
  | succ fuel =>
      unfold read? at read
      split at read
      · cases read
        exact .inr ⟨rfl, rfl⟩
      · next ch r here =>
          split at read
          · next blank =>
              exact .inl (wide_read? _ _ _ _ _ _ read (wide_blanks letterless_nil blank))
          · split at read
            · next break_ => exact .inl (wide_read? _ _ _ _ _ _ read (wide_breaks here break_))
            · cases read
              exact .inr ⟨rfl, rfl⟩

end Gap

/-! ## Plain scalars -/

theorem prefix_of_plainWord? (flow : Bool) : ∀ cs word : List Char,
    plainWord? flow cs = some word → word <+: cs := by
  intro cs
  induction cs with
  | nil =>
      intro word scan
      cases scan
      exact List.nil_prefix
  | cons ch r ih =>
      intro word scan
      unfold plainWord? at scan
      split at scan
      · cases scan
        exact List.nil_prefix
      · split at scan
        · cases scan
        · split at scan
          · cases scan
            exact List.nil_prefix
          · split at scan
            · cases scan
              exact List.nil_prefix
            · obtain ⟨more, scanned, rfl⟩ := Option.map_eq_some_iff.mp scan
              exact (List.prefix_cons_inj ch).mpr (ih more scanned)

/-- A plain scalar from behind a word on. -/
def plainAfter? (flow : Bool) (indent : Int) (fuel : Nat) (lead : List Char) (gap : Gap) (c : Cursor) :
    Option Scanned :=
  if c.rest.isEmpty || !atGap c.rest then some ⟨lead, gap.isBreaks, c⟩
  else do
    let (gap, c) ← Gap.read? (some indent) c.rest.length c gap
    if !flow && (c.column : Int) < indent then some ⟨lead, gap.isBreaks, c⟩
    else do
      let more ← plain? flow indent fuel c gap
      some { more with text := lead ++ more.text }

theorem plain?_succ (flow : Bool) (indent : Int) (fuel : Nat) (c : Cursor) (gap : Gap) :
    plain? flow indent (fuel + 1) c gap =
      if (c.column = 0 ∧ atDocumentMark c.rest) ∨ c.rest.head? = some '#' then some ⟨[], gap.isBreaks, c⟩
      else (plainWord? flow c.rest).bind fun word =>
        plainAfter? flow indent fuel (if word.isEmpty then [] else gap.text ++ word)
          (if word.isEmpty then gap else .none) (c.skipMany word.length) := rfl

/-- The scalar ends with the word, or with the gap behind it, or goes on after that gap. -/
theorem plainAfter?_cases {flow : Bool} {indent : Int} {fuel : Nat} {lead : List Char} {gap : Gap} {c : Cursor}
    {s : Scanned} (scan : plainAfter? flow indent fuel lead gap c = some s) :
    (s.text = lead ∧ s.next = c) ∨
    ∃ wider after, Gap.read? (some indent) c.rest.length c gap = some (wider, after) ∧
      ((s.text = lead ∧ s.next = after) ∨
        ∃ more, plain? flow indent fuel after wider = some more ∧
          s.text = lead ++ more.text ∧ s.next = more.next) := by
  unfold plainAfter? at scan
  split at scan
  · cases scan
    exact .inl ⟨rfl, rfl⟩
  · obtain ⟨⟨wider, after⟩, read, scan⟩ := Option.bind_eq_some_iff.mp scan
    refine .inr ⟨wider, after, read, ?_⟩
    dsimp only at scan
    split at scan
    · cases scan
      exact .inl ⟨rfl, rfl⟩
    · obtain ⟨more, scanned, scan⟩ := Option.bind_eq_some_iff.mp scan
      cases scan
      exact .inr ⟨more, scanned, rfl, rfl⟩

/-- One round of a plain scalar: it ends at once, with a word, or goes on after a gap. -/
theorem plain?_step (flow : Bool) (indent : Int) (fuel : Nat) (c : Cursor) (gap : Gap) (s : Scanned)
    (scan : plain? flow indent (fuel + 1) c gap = some s) :
    (s.text = [] ∧ s.next = c) ∨
    ∃ word, word <+: c.rest ∧
      let lead := if word.isEmpty then [] else gap.text ++ word
      let left := if word.isEmpty then gap else .none
      (s.text = lead ∧ s.next = c.skipMany word.length) ∨
      ∃ wider after, Gap.read? (some indent) (c.skipMany word.length).rest.length
          (c.skipMany word.length) left = some (wider, after) ∧
        ((s.text = lead ∧ s.next = after) ∨
          ∃ more, plain? flow indent fuel after wider = some more ∧
            s.text = lead ++ more.text ∧ s.next = more.next) := by
  rw [plain?_succ] at scan
  split at scan
  · cases scan
    exact .inl ⟨rfl, rfl⟩
  · obtain ⟨word, spelled, scan⟩ := Option.bind_eq_some_iff.mp scan
    exact .inr ⟨word, prefix_of_plainWord? flow _ _ spelled, plainAfter?_cases scan⟩

theorem rest_plain? (flow : Bool) (indent : Int) (fuel : Nat) : ∀ (c : Cursor) (gap : Gap)
    (s : Scanned), plain? flow indent fuel c gap = some s → s.next.rest <:+ c.rest := by
  induction fuel with
  | zero =>
      intro c gap s scan
      cases scan
  | succ fuel ih =>
      intro c gap s scan
      obtain ⟨-, same⟩ | ⟨word, -, ⟨-, same⟩ | ⟨wider, after, read, stops⟩⟩ :=
        plain?_step flow indent fuel c gap s scan
      · exact same ▸ List.suffix_rfl
      · rw [same]
        exact c.rest_skipMany _
      · have behind := (Gap.rest_read? _ _ _ _ _ _ read).trans (c.rest_skipMany _)
        obtain ⟨-, same⟩ | ⟨more, scanned, -, same⟩ := stops
        · rw [same]
          exact behind
        · rw [same]
          exact (ih after wider more scanned).trans behind

theorem rest_plainAfter? {flow : Bool} {indent : Int} {fuel : Nat} {lead : List Char} {gap : Gap} {c : Cursor}
    {s : Scanned} (scan : plainAfter? flow indent fuel lead gap c = some s) : s.next.rest <:+ c.rest := by
  obtain ⟨-, same⟩ | ⟨wider, after, read, ⟨-, same⟩ | ⟨more, scanned, -, same⟩⟩ := plainAfter?_cases scan
  · exact same ▸ List.suffix_rfl
  · rw [same]
    exact Gap.rest_read? _ _ _ _ _ _ read
  · rw [same]
    exact (rest_plain? _ _ _ _ _ _ scanned).trans (Gap.rest_read? _ _ _ _ _ _ read)

/-- Nothing but letters cannot follow a gap. -/
theorem plain?_wide (flow : Bool) (indent : Int) (fuel : Nat) : ∀ (c : Cursor) (gap : Gap)
    (s : Scanned), plain? flow indent fuel c gap = some s → gap.Wide → Solid s.text →
      s.text = [] := by
  induction fuel with
  | zero =>
      intro c gap s scan
      cases scan
  | succ fuel ih =>
      intro c gap s scan wide solid
      obtain ⟨none, -⟩ | ⟨word, -, ends⟩ := plain?_step flow indent fuel c gap s scan
      · exact none
      · cases word with
        | cons ch word =>
            exfalso
            obtain ⟨text, -⟩ | ⟨_, _, _, ⟨text, -⟩ | ⟨more, _, text, -⟩⟩ := ends
            · rw [text] at solid
              exact wide.not_solid (solid_append.mp solid).1
            · rw [text] at solid
              exact wide.not_solid (solid_append.mp solid).1
            · rw [text] at solid
              exact wide.not_solid (solid_append.mp (solid_append.mp solid).1).1
        | nil =>
            obtain ⟨text, -⟩ | ⟨wider, after, read, ⟨text, -⟩ | ⟨more, scanned, text, -⟩⟩ := ends
            · exact text
            · exact text
            · rw [text] at solid ⊢
              exact ih after wider more scanned (Gap.wide_read? _ _ _ _ _ _ read wide) solid

theorem plain?_word (flow : Bool) (indent : Int) (fuel : Nat) : ∀ (c : Cursor) (s : Scanned),
    plain? flow indent fuel c .none = some s → Solid s.text → s.text <+: c.rest := by
  induction fuel with
  | zero =>
      intro c s scan
      cases scan
  | succ fuel ih =>
      intro c s scan solid
      obtain ⟨none, -⟩ | ⟨word, front, ends⟩ := plain?_step flow indent fuel c .none s scan
      · rw [none]
        exact List.nil_prefix
      · have lead : (if word.isEmpty then [] else Gap.none.text ++ word) = word := by
          cases word <;> rfl
        have left : (if word.isEmpty then Gap.none else .none) = .none := by
          split <;> rfl
        dsimp only at ends
        rw [lead, left] at ends
        obtain ⟨text, -⟩ | ⟨wider, after, read, ⟨text, -⟩ | ⟨more, scanned, text, -⟩⟩ := ends
        · rw [text]
          exact front
        · rw [text]
          exact front
        · rw [text] at solid ⊢
          have more_solid := (solid_append.mp solid).2
          obtain wide | ⟨rfl, rfl⟩ := Gap.wide_or_none _ _ _ _ _ read
          · rw [plain?_wide _ _ _ _ _ _ scanned wide more_solid, List.append_nil]
            exact front
          · rw [c.rest_of_prefix front]
            exact (List.prefix_append_right_inj word).mpr (ih _ more scanned more_solid)

/-! ## Quoted scalars -/

/-- A stretch of the source between quotes stands for a text.  Where this is letters only, the two are
the same or there are escapes. -/
def Renders (single : Bool) (stretch text : List Char) : Prop :=
  Solid text → stretch = text ∨ (single = false ∧ '\\' ∈ stretch)

theorem Renders.escaped {stretch text : List Char} (escape : '\\' ∈ stretch) :
    Renders false stretch text := fun _ => .inr ⟨rfl, escape⟩

theorem Renders.append {single : Bool} {s s' t t' : List Char} (h : Renders single s t)
    (h' : Renders single s' t') : Renders single (s ++ s') (t ++ t') := by
  intro solid
  obtain ⟨solid, solid'⟩ := solid_append.mp solid
  obtain rfl | ⟨double, escape⟩ := h solid
  · obtain rfl | ⟨double, escape⟩ := h' solid'
    · exact .inl rfl
    · exact .inr ⟨double, List.mem_append_right _ escape⟩
  · exact .inr ⟨double, List.mem_append_left _ escape⟩

theorem length_escape? {cs : List Char} {x : Char × Nat} (read : escape? cs = some x) : x.2 ≤ cs.length := by
  cases cs with
  | nil => cases read
  | cons letter r =>
      rw [escape?] at read
      cases named : escapeLetter? letter with
      | some c =>
          rw [named] at read
          cases read
          exact Nat.succ_le_succ (Nat.zero_le _)
      | none =>
          rw [named] at read
          cases digits : escapeDigits? letter with
          | none =>
              rw [digits] at read
              cases read
          | some n =>
              rw [digits] at read
              obtain ⟨long, read⟩ := Option.ite_none_left_eq_some.mp read
              obtain ⟨code, -, read⟩ := Option.bind_eq_some_iff.mp read
              obtain ⟨-, read⟩ := Option.ite_none_right_eq_some.mp read
              cases read
              exact Nat.succ_le_succ (Nat.le_of_not_lt long)

/-- What the rest of a text between quotes begins with. -/
inductive QuotedPart
  /-- The end of a word. -/
  | stop
  /-- A line break that is escaped. -/
  | join
  /-- A backslash that escapes nothing. -/
  | refuse
  /-- A character, and how many behind the first are spent on it. -/
  | pass (ch : Char) (more : Nat)

def quotedPart (single : Bool) : List Char → QuotedPart
  | [] => .stop
  | ch :: r =>
    if isSpaceOrBreak ch then .stop
    else if single then
      if ch = '\'' then if r.head? = some '\'' then .pass '\'' 1 else .stop
      else .pass ch 0
    else if ch = '"' then .stop
    else if ch = '\\' then
      if r.head?.any isBreak then .join
      else match escape? r with
        | some (e, n) => .pass e n
        | none => .refuse
    else .pass ch 0

/-- A word between quotes is read part by part. -/
theorem quotedWord?_succ (single : Bool) (fuel : Nat) (c : Cursor) :
    quotedWord? single (fuel + 1) c =
      match quotedPart single c.rest with
      | .stop => some ([], false, c)
      | .join => some ([], true, c.skip.skipBreak)
      | .refuse => none
      | .pass ch more =>
        (quotedWord? single fuel (c.skipMany (more + 1))).map fun x => (ch :: x.1, x.2) := by
  have skipped : c.skipMany (0 + 1) = c.skip := c.skipMany_one
  rw [quotedWord?]
  cases c.rest with
  | nil => rfl
  | cons ch r =>
      dsimp only [quotedPart]
      by_cases gap : isSpaceOrBreak ch = true
      · rw [if_pos gap, if_pos gap]
      rw [if_neg gap, if_neg gap]
      by_cases one : single = true
      · rw [if_pos one, if_pos one]
        by_cases quote : ch = '\''
        · rw [if_pos quote, if_pos quote]
          split <;> rfl
        · rw [if_neg quote, if_neg quote]
          dsimp only
          rw [skipped]
      rw [if_neg one, if_neg one]
      by_cases quote : ch = '"'
      · rw [if_pos quote, if_pos quote]
      rw [if_neg quote, if_neg quote]
      by_cases backslash : ch = '\\'
      · rw [if_pos backslash, if_pos backslash]
        split
        · rfl
        · cases escape? r with
          | none => rfl
          | some x => exact Option.map_eq_bind.symm
      · rw [if_neg backslash, if_neg backslash]
        dsimp only
        rw [skipped]

/-- What a part says of the text that begins with it. -/
def QuotedPart.Fits (single : Bool) (cs : List Char) : QuotedPart → Prop
  | .stop => ∀ ch, cs.head? = some ch → isSpaceOrBreak ch = true ∨ ch = if single then '\'' else '"'
  | .join => single = false ∧ ∃ b r, cs = '\\' :: b :: r ∧ isBreak b = true
  | .refuse => True
  | .pass ch more => more < cs.length ∧ Renders single (cs.take (more + 1)) [ch]

theorem quotedPart_fits (single : Bool) (cs : List Char) : (quotedPart single cs).Fits single cs := by
  cases cs with
  | nil => exact nofun
  | cons ch r =>
      have itself : Renders single [ch] [ch] := fun _ => .inl rfl
      have ends : (isSpaceOrBreak ch = true ∨ ch = if single then '\'' else '"') →
          QuotedPart.Fits single (ch :: r) .stop := by
        intro stops ch' first
        cases first
        exact stops
      rw [quotedPart]
      split
      · next gap =>
          exact ends (.inl gap)
      split
      · next one =>
          subst one
          split
          · next quote =>
              subst quote
              split
              · next again =>
                  obtain ⟨r', rfl⟩ := List.head?_eq_some_iff.mp again
                  refine ⟨Nat.succ_lt_succ (Nat.succ_pos _), fun solid => ?_⟩
                  cases solid '\'' (List.mem_cons_self ..)
              · exact ends (.inr rfl)
          · exact ⟨Nat.succ_pos _, itself⟩
      · next double =>
          obtain rfl : single = false := Bool.eq_false_iff.mpr double
          split
          · next quote =>
              exact ends (.inr quote)
          split
          · next backslash =>
              subst backslash
              split
              · next joint =>
                  cases r with
                  | nil => cases joint
                  | cons b r => exact ⟨rfl, b, r, rfl, joint⟩
              · cases read : escape? r with
                | none => trivial
                | some x => exact ⟨Nat.succ_le_succ (length_escape? read), .escaped (List.mem_cons_self ..)⟩
          · exact ⟨Nat.succ_pos _, itself⟩

/-- From one place between quotes to another stands a word; only an escape takes the break after it
along. -/
def Spans (single : Bool) (c d : Cursor) (word : List Char) (joined : Bool) : Prop :=
  ∃ stretch, c.rest = stretch ++ d.rest ∧ Renders single stretch word ∧
    (joined = true → single = false ∧ '\\' ∈ stretch)

namespace Spans

variable {single joined : Bool} {c d : Cursor} {word r : List Char}

theorem stay (single : Bool) (c : Cursor) : Spans single c c [] false :=
  ⟨[], rfl, fun _ => .inl rfl, nofun⟩

theorem pass {ch : Char} {more : Nat} (renders : Renders single (c.rest.take (more + 1)) [ch])
    (h : Spans single (c.skipMany (more + 1)) d word joined) : Spans single c d (ch :: word) joined := by
  obtain ⟨stretch, split, renders', breaks⟩ := h
  refine ⟨c.rest.take (more + 1) ++ stretch, ?_, renders.append renders', fun j => ?_⟩
  · rw [List.append_assoc, ← split, Cursor.skipMany, List.take_append_drop]
  · exact ⟨(breaks j).1, List.mem_append_right _ (breaks j).2⟩

theorem lineEnd (here : c.rest = '\\' :: r) : Spans false c c.skip.skipBreak [] true := by
  obtain ⟨passed, same⟩ := c.skip.rest_skipBreak
  refine ⟨'\\' :: passed, ?_, .escaped (List.mem_cons_self ..),
    fun _ => ⟨rfl, List.mem_cons_self ..⟩⟩
  rw [List.cons_append, same, Cursor.skip, here, List.tail_cons]

end Spans

theorem quotedWord?_stretch (single : Bool) (fuel : Nat) : ∀ (c d : Cursor) (word : List Char)
    (joined : Bool), quotedWord? single fuel c = some (word, joined, d) →
      Spans single c d word joined := by
  induction fuel with
  | zero =>
      intro c d word joined scan
      cases scan
      exact .stay single c
  | succ fuel ih =>
      intro c d word joined scan
      have fits := quotedPart_fits single c.rest
      rw [quotedWord?_succ] at scan
      cases part : quotedPart single c.rest with
      | stop =>
          rw [part] at scan
          cases scan
          exact .stay single c
      | join =>
          rw [part] at scan fits
          cases scan
          obtain ⟨rfl, b, r, here, -⟩ := fits
          exact .lineEnd here
      | refuse =>
          rw [part] at scan
          cases scan
      | pass ch more =>
          rw [part] at scan fits
          obtain ⟨⟨text, b, e⟩, scanned, same⟩ := Option.map_eq_some_iff.mp scan
          cases same
          exact .pass fits.2 (ih _ _ _ _ scanned)

/-- A word between quotes ends at the end of the text, at a quote or at a gap, or behind a line break that
is escaped. -/
theorem quotedWord?_stops (single : Bool) (fuel : Nat) : ∀ (c d : Cursor) (w : List Char),
    c.rest.length ≤ fuel → quotedWord? single fuel c = some (w, false, d) → ∀ ch, d.rest.head? = some ch →
      isSpaceOrBreak ch = true ∨ ch = if single then '\'' else '"' := by
  induction fuel with
  | zero =>
      intro c d w enough read ch first
      cases read
      rw [List.length_eq_zero_iff.mp (Nat.le_zero.mp enough)] at first
      cases first
  | succ fuel ih =>
      intro c d w enough read ch first
      have fits := quotedPart_fits single c.rest
      rw [quotedWord?_succ] at read
      cases part : quotedPart single c.rest with
      | stop =>
          rw [part] at read fits
          cases read
          exact fits ch first
      | join =>
          rw [part] at read
          cases read
      | refuse =>
          rw [part] at read
          cases read
      | pass ch' more =>
          rw [part] at read fits
          obtain ⟨⟨text, joined, e⟩, rest, same⟩ := Option.map_eq_some_iff.mp read
          cases same
          have shorter : (c.skipMany (more + 1)).rest.length ≤ fuel := by
            rw [Cursor.skipMany, List.length_drop]
            omega
          exact ih _ _ _ shorter rest ch first

/-- What stands between the quotes from behind a word on. -/
def quotedAfter? (single : Bool) (fuel : Nat) (x : List Char × Bool × Cursor) : Option (List Char × Cursor) :=
  if x.2.2.rest.head? = some (if single then '\'' else '"') then some (x.1, x.2.2.skip)
  else do
    let (gap, c) ← Gap.read? none x.2.2.rest.length x.2.2 (if x.2.1 then .breaks [] [] else .none)
    let (more, c) ← quoted? single fuel c
    some (x.1 ++ gap.text ++ more, c)

theorem quoted?_succ (single : Bool) (fuel : Nat) (c : Cursor) :
    quoted? single (fuel + 1) c =
      if (c.column = 0 ∧ atDocumentMark c.rest) ∨ c.rest.isEmpty then none
      else (quotedWord? single c.rest.length c).bind (quotedAfter? single fuel) := rfl

/-- The quote closes behind the word, or a gap and more words come before it. -/
theorem quotedAfter?_cases {single joined : Bool} {fuel : Nat} {word text : List Char} {c d : Cursor}
    (scan : quotedAfter? single fuel (word, joined, c) = some (text, d)) :
    (c.rest = (if single then '\'' else '"') :: d.rest ∧ text = word) ∨
    ∃ gap after more,
      Gap.read? none c.rest.length c (if joined then .breaks [] [] else .none) = some (gap, after) ∧
      quoted? single fuel after = some (more, d) ∧ text = word ++ gap.text ++ more := by
  unfold quotedAfter? at scan
  generalize (if single = true then '\'' else '"') = quote at scan ⊢
  split at scan
  · next closes =>
      obtain ⟨r, here⟩ := List.head?_eq_some_iff.mp closes
      cases scan
      have rest : c.skip.rest = r := by rw [Cursor.skip, here, List.tail_cons]
      exact .inl ⟨rest ▸ here, rfl⟩
  · obtain ⟨⟨gap, after⟩, read, scan⟩ := Option.bind_eq_some_iff.mp scan
    obtain ⟨⟨more, e⟩, rest, scan⟩ := Option.bind_eq_some_iff.mp scan
    cases scan
    exact .inr ⟨gap, after, more, read, rest, rfl⟩

/-- What stands between the quotes. -/
theorem quoted?_stretch (single : Bool) (fuel : Nat) : ∀ (c d : Cursor) (text : List Char),
    quoted? single fuel c = some (text, d) →
      ∃ stretch, c.rest = stretch ++ (if single then '\'' else '"') :: d.rest ∧
        Renders single stretch text := by
  induction fuel with
  | zero =>
      intro c d text scan
      cases scan
  | succ fuel ih =>
      intro c d text scan
      rw [quoted?_succ] at scan
      obtain ⟨-, scan⟩ := Option.ite_none_left_eq_some.mp scan
      obtain ⟨⟨word, joined, behind⟩, scanned, scan⟩ := Option.bind_eq_some_iff.mp scan
      obtain ⟨stretch, split, renders, breaks⟩ := quotedWord?_stretch _ _ _ _ _ _ scanned
      obtain ⟨closes, rfl⟩ | ⟨gap, after, more, read, rest, rfl⟩ := quotedAfter?_cases scan
      · exact ⟨stretch, by rw [split, closes], renders⟩
      · obtain ⟨others, split', renders'⟩ := ih _ _ _ rest
        obtain ⟨between, same⟩ := Gap.rest_read? _ _ _ _ _ _ read
        refine ⟨stretch ++ (between ++ others), ?_, ?_⟩
        · rw [split, ← same, split']
          simp only [List.append_assoc]
        · cases joined with
          | true =>
              obtain ⟨double, escape⟩ := breaks rfl
              exact fun _ => .inr ⟨double, List.mem_append_left _ escape⟩
          | false =>
              obtain wide | ⟨rfl, rfl⟩ := Gap.wide_or_none _ _ _ _ _ read
              · intro solid
                exact absurd (solid_append.mp (solid_append.mp solid).1).2 wide.not_solid
              · have nothing : between = [] := List.append_left_eq_self.mp same
                rw [nothing, Gap.none, Gap.text, List.append_nil]
                exact renders.append renders'

/-! ## Block scalars -/

theorem emptyLines?_passes (indent : Option Nat) (fuel : Nat) : ∀ (deepest deepest' : Nat)
    (breaks breaks' : List Char) (c d : Cursor),
    emptyLines? indent fuel deepest breaks c = some (deepest', breaks', d) → Letterless breaks →
      d.rest <:+ c.rest ∧ Letterless breaks' := by
  induction fuel with
  | zero =>
      intro deepest deepest' breaks breaks' c d scan before
      cases scan
      exact ⟨List.suffix_rfl, before⟩
  | succ fuel ih =>
      intro deepest deepest' breaks breaks' c d scan before
      -- however many blanks have been passed
      have go_on : ∀ (e : Cursor) (deepest : Nat) (refused : Bool), e.rest <:+ c.rest →
          (if refused then none
            else if e.rest.head?.any isBreak then
              emptyLines? indent fuel deepest (breaks ++ e.breakText) e.skipBreak
            else some (deepest, breaks, e)) = some (deepest', breaks', d) →
          d.rest <:+ c.rest ∧ Letterless breaks' := by
        intro e deepest refused behind scan
        split at scan
        · cases scan
        · split at scan
          · obtain ⟨further, after⟩ := ih _ _ _ _ _ _ scan
              (letterless_append.mpr ⟨before, e.letterless_breakText⟩)
            exact ⟨further.trans (e.rest_skipBreak.trans behind), after⟩
          · cases scan
            exact ⟨behind, before⟩
      unfold emptyLines? at scan
      exact go_on _ _ _ (c.rest_skipMany _) scan

/-- The lines of a block scalar from the end of one on, behind the text that has been read. -/
def linesAfter? (literal : Bool) (indent fuel : Nat) (blankHere : Bool) (text : List Char) (c : Cursor) :
    Option BlockLines := do
  let (_, after, next) ← emptyLines? (some indent) (c.rest.length + 1) 0 [] c.skipBreak
  let more ← blockLines? literal indent fuel c.breakText after blankHere next
  some { more with text := text ++ more.text }

/-- What joins a line of a block scalar to the one before it. -/
def lineJoint (literal : Bool) (pending empties : List Char) (blankBefore blankHere : Bool) : List Char :=
  if !literal && pending = ['\n'] && !blankBefore && !blankHere then (if empties.isEmpty then [' '] else [])
  else pending

theorem blockLines?_succ (literal : Bool) (indent fuel : Nat) (pending empties : List Char) (blankBefore : Bool)
    (c : Cursor) :
    blockLines? literal indent (fuel + 1) pending empties blankBefore c =
      if c.column = indent ∧ !c.rest.isEmpty then
        linesAfter? literal indent fuel (c.rest.head?.any isSpace)
          (lineJoint literal pending empties blankBefore (c.rest.head?.any isSpace) ++ empties ++
            c.rest.takeWhile fun ch => !isBreak ch)
          (c.skipMany (c.rest.takeWhile fun ch => !isBreak ch).length)
      else some ⟨[], pending, empties, c⟩ := rfl

/-- One line of a block scalar, or the end of it. -/
theorem blockLines?_step (literal : Bool) (indent fuel : Nat) (pending empties : List Char)
    (blankBefore : Bool) (c : Cursor) (b : BlockLines)
    (scan : blockLines? literal indent (fuel + 1) pending empties blankBefore c = some b) :
    b = ⟨[], pending, empties, c⟩ ∨
    ∃ folds : Bool, (folds = true → pending = ['\n']) ∧
      let line := c.rest.takeWhile fun ch => !isBreak ch
      let ended := c.skipMany line.length
      ∃ deepest after next blankHere more,
        emptyLines? (some indent) (ended.rest.length + 1) 0 [] ended.skipBreak =
          some (deepest, after, next) ∧
        blockLines? literal indent fuel ended.breakText after blankHere next = some more ∧
        b = { more with
          text := (if folds then (if empties.isEmpty then [' '] else []) else pending) ++ empties
            ++ line ++ more.text } := by
  rw [blockLines?_succ] at scan
  split at scan
  · obtain ⟨⟨deepest, after, next⟩, passed, scan⟩ := Option.bind_eq_some_iff.mp scan
    obtain ⟨more, scanned, scan⟩ := Option.bind_eq_some_iff.mp scan
    cases scan
    refine .inr ⟨_, fun folds => ?_, deepest, after, next, _, more, passed, scanned, rfl⟩
    simp only [Bool.and_eq_true, decide_eq_true_eq] at folds
    exact folds.1.1.2
  · cases scan
    exact .inl rfl

theorem blockLines?_passes (literal : Bool) (indent fuel : Nat) : ∀ (pending empties : List Char)
    (blankBefore : Bool) (c : Cursor) (b : BlockLines),
    blockLines? literal indent fuel pending empties blankBefore c = some b →
      Letterless pending → Letterless empties →
      b.next.rest <:+ c.rest ∧ Letterless b.lastBreak ∧ Letterless b.trailing := by
  induction fuel with
  | zero =>
      intro pending empties blankBefore c b scan
      cases scan
  | succ fuel ih =>
      intro pending empties blankBefore c b scan before between
      obtain rfl | ⟨folds, -, deepest, after, next, blankHere, more, passed, scanned, rfl⟩ :=
        blockLines?_step _ _ _ _ _ _ _ _ scan
      · exact ⟨List.suffix_rfl, before, between⟩
      · obtain ⟨behind, empty⟩ := emptyLines?_passes _ _ _ _ _ _ _ _ passed letterless_nil
        obtain ⟨further, last, trailing⟩ := ih _ _ _ _ _ scanned (Cursor.letterless_breakText _) empty
        exact ⟨further.trans (behind.trans ((Cursor.rest_skipBreak _).trans (c.rest_skipMany _))),
          last, trailing⟩

/-- Nothing but letters cannot follow the end of a line. -/
theorem blockLines?_after (literal : Bool) (indent fuel : Nat) (pending empties : List Char)
    (blankBefore : Bool) (c : Cursor) (b : BlockLines)
    (scan : blockLines? literal indent fuel pending empties blankBefore c = some b)
    (before : Letterless pending) (between : Letterless empties) (some : pending ≠ [])
    (solid : Solid b.text) : b.text = [] := by
  cases fuel with
  | zero => cases scan
  | succ fuel =>
      obtain rfl | ⟨folds, single, deepest, after, next, blankHere, more, -, -, rfl⟩ :=
        blockLines?_step _ _ _ _ _ _ _ _ scan
      · rfl
      · exfalso
        have front := (solid_append.mp (solid_append.mp solid).1).1
        obtain ⟨joint, empty⟩ := solid_append.mp front
        have none := between.eq_nil empty
        subst none
        cases folds with
        | true => cases joint ' ' (List.mem_cons_self ..)
        | false => exact some (before.eq_nil joint)

theorem blockLines?_line (literal : Bool) (indent fuel : Nat) : ∀ (empties : List Char)
    (blankBefore : Bool) (c : Cursor) (b : BlockLines),
    blockLines? literal indent fuel [] empties blankBefore c = some b → Letterless empties →
      Solid b.text → b.text <+: c.rest := by
  induction fuel with
  | zero =>
      intro empties blankBefore c b scan
      cases scan
  | succ fuel ih =>
      intro empties blankBefore c b scan between solid
      obtain rfl | ⟨folds, single, deepest, after, next, blankHere, more, passed, scanned, rfl⟩ :=
        blockLines?_step _ _ _ _ _ _ _ _ scan
      · exact List.nil_prefix
      · have noFold : folds = false := by
          cases folds with
          | true => cases single rfl
          | false => rfl
        subst noFold
        obtain ⟨opening, rest⟩ := solid_append.mp solid
        have none := between.eq_nil (solid_append.mp (solid_append.mp opening).1).2
        subst none
        have nothing : more.text = [] := by
          obtain ⟨behind, letterless⟩ := emptyLines?_passes _ _ _ _ _ _ _ _ passed letterless_nil
          cases here : (c.skipMany (c.rest.takeWhile fun ch => !isBreak ch).length).rest with
          | nil =>
              simp only [Cursor.breakText, here] at scanned
              have ended := behind.trans (Cursor.rest_skipBreak _)
              rw [here, List.suffix_nil] at ended
              have front := ih _ _ _ _ scanned letterless rest
              rw [ended, List.prefix_nil] at front
              exact front
          | cons ch r =>
              exact blockLines?_after _ _ _ _ _ _ _ _ scanned (Cursor.letterless_breakText _) letterless
                (Cursor.breakText_ne_nil _ here (c.break_behind_line here)) rest
        simp only [nothing, List.append_nil]
        exact List.takeWhile_prefix _

def fixedIndent (parent : Int) (given : Option Nat) : Option Nat :=
  given.map fun (g : Nat) => if 0 ≤ parent then (parent + g).toNat else g

/-- The text of a block scalar with what it keeps of the breaks behind its last line. -/
def BlockLines.ending? (b : BlockLines) : Chomp → Option (List Char × Cursor)
  | .strip => some (b.text, b.next)
  | .clip => some (b.text ++ b.lastBreak, b.next)
  | .keep => some (b.text ++ b.lastBreak ++ b.trailing, b.next)

/-- A block scalar from the end of its header's line on. -/
def blockBody? (literal : Bool) (parent : Int) (chomp : Chomp) (fixed : Option Nat) (c : Cursor) :
    Option (List Char × Cursor) :=
  if !atBreak c.rest then none
  else do
    let (deepest, empties, c) ← emptyLines? fixed (c.skipBreak.rest.length + 1) 0 [] c.skipBreak
    let b ← blockLines? literal (fixed.getD (max deepest (max (parent + 1).toNat 1))) (c.rest.length + 1) []
      empties false c
    b.ending? chomp

theorem block?_eq (literal : Bool) (parent : Int) (c : Cursor) :
    block? literal parent c = (blockHeader? c.rest).bind fun x =>
      blockBody? literal parent x.1 (fixedIndent parent x.2.1) ((c.skipMany x.2.2).lineEnd isSpace) := rfl

/-- A block scalar that is letters only is a line without its indentation. -/
theorem blockBody?_spelling (literal : Bool) (parent : Int) (chomp : Chomp) (fixed : Option Nat) (c d : Cursor)
    (text : List Char) (scan : blockBody? literal parent chomp fixed c = some (text, d)) :
    d.rest <:+ c.rest ∧ (Solid text → text <:+: c.rest) := by
  obtain ⟨-, scan⟩ := Option.ite_none_left_eq_some.mp scan
  obtain ⟨⟨deepest, empties, lines⟩, indented, scan⟩ := Option.bind_eq_some_iff.mp scan
  obtain ⟨b, scanned, scan⟩ := Option.bind_eq_some_iff.mp scan
  obtain ⟨behind, between⟩ := emptyLines?_passes _ _ _ _ _ _ _ _ indented letterless_nil
  have behind := behind.trans c.rest_skipBreak
  obtain ⟨ended, last, trailing⟩ := blockLines?_passes _ _ _ _ _ _ _ _ scanned letterless_nil between
  have line : Solid b.text → b.text <:+: c.rest := fun solid =>
    (blockLines?_line _ _ _ _ _ _ _ scanned between solid).isInfix.trans behind.isInfix
  cases chomp with
  | strip =>
      cases scan
      exact ⟨ended.trans behind, line⟩
  | clip =>
      cases scan
      refine ⟨ended.trans behind, fun solid => ?_⟩
      obtain ⟨solid, none⟩ := solid_append.mp solid
      rw [last.eq_nil none, List.append_nil]
      exact line solid
  | keep =>
      cases scan
      refine ⟨ended.trans behind, fun solid => ?_⟩
      obtain ⟨solid, none'⟩ := solid_append.mp solid
      obtain ⟨solid, none⟩ := solid_append.mp solid
      rw [last.eq_nil none, trailing.eq_nil none', List.append_nil, List.append_nil]
      exact line solid

theorem block?_spelling (literal : Bool) (parent : Int) (c d : Cursor) (text : List Char)
    (scan : block? literal parent c = some (text, d)) :
    d.rest <:+ c.rest ∧ (Solid text → text <:+: c.rest) := by
  rw [block?_eq] at scan
  obtain ⟨⟨chomp, given, n⟩, -, scan⟩ := Option.bind_eq_some_iff.mp scan
  have passed := (Cursor.rest_lineEnd (c.skipMany n) isSpace).trans (c.rest_skipMany n)
  obtain ⟨behind, stands⟩ := blockBody?_spelling _ _ _ _ _ _ _ scan
  exact ⟨behind.trans passed, fun solid => (stands solid).trans passed.isInfix⟩

end HeatStack.Yaml
