import HeatStack.Proofs.TrailingBreak

/-! # The tokens of a text with a line break at its end

The lexer goes side by side over a text and over the same text with a line break behind it.  The tokens
are the same, unless the last scalar is a block scalar that keeps the break. -/
set_option autoImplicit false
namespace HeatStack.Yaml
open HeatStack.Text

/-! ## Names, tags and directives -/

theorem hexValue?_break : hexValue? '\n' = none := rfl

theorem octet?_broken (cs : List Char) :
    Lexer.octet? (cs ++ ['\n']) = (Lexer.octet? cs).map fun x => (x.1, x.2 ++ ['\n']) := by
  match cs with
  | [] => rfl
  | [p] => simp [Lexer.octet?]
  | [p, a] => 
      by_cases percent : p = '%'
      · subst percent
        cases hexValue? a <;> simp [Lexer.octet?, hexValue?_break]
      · simp [Lexer.octet?, percent]
  | p :: a :: b :: r =>
      by_cases percent : p = '%'
      · subst percent
        simp only [Lexer.octet?, List.cons_append]
        cases hexValue? a <;> cases hexValue? b <;> rfl
      · simp [Lexer.octet?, percent]

theorem continuation?_broken (n : Nat) : ∀ (code : Nat) (cs : List Char),
    Lexer.continuation? n code (cs ++ ['\n']) =
      (Lexer.continuation? n code cs).map fun x => (x.1, x.2 ++ ['\n']) := by
  induction n with
  | zero => exact fun _ _ => rfl
  | succ n ih =>
      intro code cs
      refine rel_map_iff.mp (rel_bind (rel_map_iff.mpr (octet?_broken cs)) ?_)
      rintro ⟨o, r⟩ _ - rfl
      exact rel_ite Iff.rfl (fun _ => rel_map_iff.mpr (ih _ r)) fun _ => .none

theorem octets?_broken (cs : List Char) :
    Lexer.octets? (cs ++ ['\n']) = (Lexer.octets? cs).map fun x => (x.1, x.2 ++ ['\n']) := by
  refine rel_map_iff.mp (rel_bind (rel_map_iff.mpr (octet?_broken cs)) ?_)
  rintro ⟨o, r⟩ _ - rfl
  have others (n code : Nat) : Option.Rel (fun a b => b = (a.1, a.2 ++ ['\n']))
      ((Lexer.continuation? n code r).bind fun x => some (Char.ofNat x.1, x.2))
      ((Lexer.continuation? n code (r ++ ['\n'])).bind fun x => some (Char.ofNat x.1, x.2)) := by
    refine rel_bind (rel_map_iff.mpr (continuation?_broken n code r)) ?_
    rintro x _ - rfl
    exact .some rfl
  refine rel_ite Iff.rfl (fun _ => .some rfl) fun _ => ?_
  refine rel_ite Iff.rfl (fun _ => others 1 _) fun _ => ?_
  refine rel_ite Iff.rfl (fun _ => others 2 _) fun _ => ?_
  exact rel_ite Iff.rfl (fun _ => others 3 _) fun _ => .none

theorem length_octet? {cs r : List Char} {o : Nat} (read : Lexer.octet? cs = some (o, r)) :
    r.length < cs.length := by
  unfold Lexer.octet? at read
  split at read
  · obtain ⟨x, -, read⟩ := Option.bind_eq_some_iff.mp read
    obtain ⟨y, -, read⟩ := Option.bind_eq_some_iff.mp read
    cases read
    simp only [List.length_cons]
    omega
  · cases read

theorem length_continuation? (n : Nat) : ∀ (code code' : Nat) (cs r : List Char),
    Lexer.continuation? n code cs = some (code', r) → r.length ≤ cs.length := by
  induction n with
  | zero =>
      intro code code' cs r read
      cases read
      exact Nat.le_refl _
  | succ n ih =>
      intro code code' cs r read
      obtain ⟨⟨o, r'⟩, first, read⟩ := Option.bind_eq_some_iff.mp read
      obtain ⟨-, read⟩ := Option.ite_none_right_eq_some.mp read
      exact Nat.le_trans (ih _ _ _ _ read) (Nat.le_of_lt (length_octet? first))

theorem length_octets? {cs r : List Char} {ch : Char} (read : Lexer.octets? cs = some (ch, r)) :
    r.length < cs.length := by
  obtain ⟨⟨o, r'⟩, first, read⟩ := Option.bind_eq_some_iff.mp read
  have others : ∀ n code, (Lexer.continuation? n code r').bind (fun x => some (Char.ofNat x.1, x.2)) =
      some (ch, r) → r.length < cs.length := by
    intro n code read
    obtain ⟨x, more, read⟩ := Option.bind_eq_some_iff.mp read
    cases read
    exact Nat.lt_of_le_of_lt (length_continuation? _ _ _ _ _ more) (length_octet? first)
  refine of_ite (fun _ => others 0 o) (fun _ => ?_) read
  refine of_ite (fun _ => others 1 _) (fun _ => ?_)
  refine of_ite (fun _ => others 2 _) (fun _ => ?_)
  exact of_ite (fun _ => others 3 _) fun _ => nofun

theorem tagChars?_broken (full : Bool) (fuel : Nat) : ∀ cs : List Char, cs.length ≤ fuel →
    Lexer.tagChars? full (fuel + 1) (cs ++ ['\n']) =
      (Lexer.tagChars? full fuel cs).map fun x => (x.1, x.2 ++ ['\n']) := by
  have ends : ∀ n, Lexer.tagChars? full (n + 1) ['\n'] = some ([], ['\n']) := by
    intro n
    cases full <;> rfl
  induction fuel with
  | zero =>
      intro cs enough
      rw [List.length_eq_zero_iff.mp (Nat.le_zero.mp enough)]
      exact ends 0
  | succ fuel ih =>
      intro cs enough
      cases cs with
      | nil => exact ends _
      | cons ch r =>
          have length : r.length ≤ fuel := Nat.le_of_succ_le_succ enough
          refine rel_map_iff.mp (rel_ite Iff.rfl (fun _ => ?_) fun _ => rel_ite Iff.rfl (fun _ => ?_) fun _ => .some rfl)
          · refine rel_bind (rel_map_iff.mpr (octets?_broken (ch :: r))) ?_
            rintro ⟨_, r'⟩ _ read rfl
            have shorter := length_octets? read
            rw [List.length_cons] at shorter
            refine rel_bind (rel_map_iff.mpr (ih r' (by omega))) ?_
            rintro ⟨more, r''⟩ _ - rfl
            exact .some rfl
          · exact rel_map (rel_imp (by rintro x _ rfl; rfl) (rel_map_iff.mpr (ih r length)))

theorem length_tagChars? (full : Bool) (fuel : Nat) : ∀ cs text r : List Char,
    Lexer.tagChars? full fuel cs = some (text, r) → r.length ≤ cs.length := by
  induction fuel with
  | zero =>
      intro cs text r read
      cases read
      exact Nat.le_refl _
  | succ fuel ih =>
      intro cs text r read
      cases cs with
      | nil =>
          cases read
          exact Nat.le_refl _
      | cons ch cs =>
          rw [Lexer.tagChars?] at read
          split at read
          · obtain ⟨⟨ch', r'⟩, octets, read⟩ := Option.bind_eq_some_iff.mp read
            obtain ⟨⟨more, r''⟩, rest, read⟩ := Option.bind_eq_some_iff.mp read
            cases read
            exact Nat.le_trans (ih _ _ _ rest) (Nat.le_of_lt (length_octets? octets))
          · split at read
            · obtain ⟨⟨more, r'⟩, rest, same⟩ := Option.map_eq_some_iff.mp read
              cases same
              exact Nat.le_succ_of_le (ih _ _ _ rest)
            · cases read
              exact Nat.le_refl _

namespace Lexer
variable (c : Cursor)

theorem name_broken : name c.broken = breakBehind (name c) := by
  have stops : isNameChar '\n' = false := by decide
  simp only [name, Cursor.rest_broken, takeWhile_broken stops, breakBehind,
    Cursor.skipMany_broken (List.takeWhile_prefix isNameChar).length_le]

theorem versionPart?_broken : versionPart? c.broken = (versionPart? c).map breakBehind := by
  have stops : isDigit '\n' = false := by decide
  simp only [versionPart?, Cursor.rest_broken, takeWhile_broken stops,
    Cursor.skipMany_broken (List.takeWhile_prefix isDigit).length_le]
  split <;> rfl

theorem handle?_broken (directive : Bool) :
    handle? directive c.broken = (handle? directive c).map breakBehind := by
  have stops : isNameChar '\n' = false := by decide
  cases here : c.rest with
  | nil => simp [handle?, here]
  | cons ch r =>
      by_cases mark : ch = '!'
      · subst mark
        have within : (r.takeWhile isNameChar).length + 1 ≤ c.rest.length := by
          rw [here]
          exact Nat.succ_le_succ (List.takeWhile_prefix _).length_le
        simp only [handle?, Cursor.rest_broken, here, List.cons_append, takeWhile_broken stops,
          Cursor.skipMany_broken within, head?_broken (show '\n' ≠ '!' by decide)]
        split
        · next closed =>
            rw [Cursor.skip_broken (ne_nil_of_head? closed)]
            rfl
        · split <;> rfl
      · simp [handle?, here, mark]

theorem tagText?_broken (full : Bool) (before : List Char) :
    tagText? full before c.broken = (tagText? full before c).map breakBehind := by
  simp only [tagText?, Cursor.rest_broken, List.length_append, List.length_singleton,
    tagChars?_broken full _ c.rest (Nat.le_refl _)]
  cases read : tagChars? full c.rest.length c.rest with
  | none => rfl
  | some x =>
      have shorter := length_tagChars? _ _ _ _ _ read
      simp only [Option.map_some, Option.bind_eq_bind, Option.bind_some, List.length_append,
        List.length_singleton, Nat.add_sub_add_right, Cursor.skipMany_broken (Nat.sub_le c.rest.length x.2.length)]
      split <;> rfl

theorem anchorName?_broken (some : c.rest ≠ []) :
    anchorName? c.broken = (anchorName? c).map breakBehind := by
  simp only [anchorName?, Cursor.skip_broken some, name_broken, breakBehind]
  obtain ⟨n, rest, index, line, column⟩ := name c.skip
  cases rest with
  | nil =>
      have ends : isSpaceOrBreak '\n' = true := by decide
      simp only [Cursor.broken, List.nil_append, ends, Bool.true_or]
      rw [apply_ite (Option.map _)]
      rfl
  | cons ch r =>
      simp only [Cursor.broken, List.cons_append]
      rw [apply_ite (Option.map _)]
      rfl

theorem tagParts?_broken : tagParts? c.broken = (tagParts? c).map fun x => (x.1, x.2.1, x.2.2.broken) := by
  have angle : c.broken.rest.tail.head? = some '<' ↔ c.rest.tail.head? = some '<' := by
    cases here : c.rest with
    | nil => simp [here]
    | cons ch r =>
        rw [Cursor.rest_broken_cons here]
        exact head?_broken (by decide) r
  refine rel_map_iff.mp (rel_ite angle (fun verbatim => ?_) fun _ => ?_)
  · have within : 2 ≤ c.rest.length := by
      have more := List.length_pos_iff.mpr (ne_nil_of_head? verbatim)
      rw [List.length_tail] at more
      omega
    rw [Cursor.skipMany_broken within]
    refine rel_bind (rel_map_iff.mpr (tagText?_broken _ true [])) ?_
    rintro ⟨text, d⟩ _ - rfl
    refine rel_ite (head?_broken (by decide) d.rest) (fun closes => ?_) fun _ => .none
    exact .some (by rw [Cursor.skip_broken (ne_nil_of_head? closes)])
  · refine rel_bind (rel_map_iff.mpr (handle?_broken c false)) ?_
    rintro ⟨h, d⟩ _ - rfl
    refine rel_ite Iff.rfl (fun _ => rel_map_iff.mpr ?_) fun _ => rel_map_iff.mpr ?_
    · rw [tagText?_broken, Option.map_map, Option.map_map]
      rfl
    · rw [tagText?_broken, Option.map_map, Option.map_map]
      refine congrArg (Option.map · _) (funext fun x => ?_)
      obtain ⟨text, e⟩ := x
      cases text <;> rfl

theorem tag?_broken (flow : Bool) : tag? flow c.broken = (tag? flow c).map breakBehind := by
  rw [tag?_eq, tag?_eq]
  refine rel_map_iff.mp (rel_bind (rel_map_iff.mpr (tagParts?_broken c)) ?_)
  rintro ⟨h, text, d⟩ _ - rfl
  refine rel_ite ?_ (fun _ => .some rfl) fun _ => .none
  rw [Cursor.rest_broken, atGap_broken, head?_broken (by decide)]

theorem directiveToken?_broken (n : String) :
    directiveToken? n c.broken = (directiveToken? n c).map breakBehind := by
  unfold directiveToken?
  rw [Cursor.skipWhile_broken (by decide)]
  refine rel_map_iff.mp (rel_ite Iff.rfl (fun _ => ?_) fun _ => rel_ite Iff.rfl (fun _ => ?_) fun _ => .none)
  · refine rel_bind (rel_map_iff.mpr (versionPart?_broken _)) ?_
    rintro ⟨major, d⟩ _ - rfl
    refine rel_ite (head?_broken (by decide) d.rest) (fun point => rel_map_iff.mpr ?_) fun _ => .none
    rw [Cursor.skip_broken (ne_nil_of_head? point), versionPart?_broken, Option.map_map, Option.map_map]
    rfl
  · refine rel_bind (rel_map_iff.mpr (handle?_broken _ true)) ?_
    rintro ⟨h, d⟩ _ - rfl
    refine rel_ite (by rw [Cursor.rest_broken, head?_any_broken rfl]) (fun _ => .none) fun _ => ?_
    rw [Cursor.skipWhile_broken (by decide)]
    refine rel_bind (rel_map_iff.mpr (tagText?_broken _ true [])) ?_
    rintro ⟨text, e⟩ _ - rfl
    exact rel_ite (by rw [Cursor.rest_broken, atGap_broken]) (fun _ => .some rfl) fun _ => .none

/-- A directive ends with its line. -/
theorem directive?_broken (settled : Settled c.rest) (some : c.rest ≠ []) :
    Option.Rel SameRead (directive? c) (directive? c.broken) := by
  rw [directive?_eq, directive?_eq, Cursor.skip_broken some, name_broken]
  refine rel_ite (by rw [breakBehind, Cursor.rest_broken, atGap_broken]) (fun _ => .none) fun _ => ?_
  refine rel_bind (rel_map_iff.mpr (directiveToken?_broken _ _)) ?_
  rintro ⟨t, d⟩ _ read rfl
  have behind := (d.rest_lineEnd isSpace).trans ((rest_directiveToken? read).2.trans
    ((rest_name c.skip).trans c.rest_skip))
  simp only [breakBehind, Cursor.lineEnd_broken (show isSpace '\n' = false by decide), Cursor.rest_broken,
    atBreak_broken]
  exact rel_ite Iff.rfl (fun _ => .some ⟨rfl, Cursor.skipBreak_beside _ (settled.suffix behind)⟩) fun _ => .none

/-! ## The lexer in both texts -/

/-- The same lexer in the text with the break. -/
def broken (l : Lexer) : Lexer := { l with cursor := l.cursor.broken }

section
variable (l : Lexer)

@[simp] theorem cursor_broken : l.broken.cursor = l.cursor.broken := rfl
@[simp] theorem inFlow_broken : l.broken.inFlow = l.inFlow := rfl
@[simp] theorem keyAllowed_broken : l.broken.keyAllowed = l.keyAllowed := rfl

theorem dropKey?_broken : l.broken.dropKey? = l.dropKey?.map broken := by
  have same : l.broken.keys = l.keys := rfl
  unfold dropKey?
  rw [same]
  split
  · split <;> rfl
  · rfl

theorem noteKey?_broken : l.broken.noteKey? = l.noteKey?.map broken := by
  unfold noteKey?
  rw [keyAllowed_broken, dropKey?_broken]
  split
  · cases l.dropKey? <;> rfl
  · rfl

theorem unroll_broken (column : Int) (n : Nat) : ∀ l : Lexer, unroll column n l.broken = (unroll column n l).broken := by
  induction n with
  | zero => exact fun _ => rfl
  | succ n ih =>
      intro l
      unfold unroll
      by_cases stays : l.inFlow = true ∨ l.indent ≤ column
      · have stays' : l.broken.inFlow = true ∨ l.broken.indent ≤ column := stays
        rw [if_pos stays, if_pos stays']
      · have stays' : ¬ (l.broken.inFlow = true ∨ l.broken.indent ≤ column) := stays
        rw [if_neg stays, if_neg stays', ← ih]
        rfl

theorem unrollTo_broken (column : Int) : l.broken.unrollTo column = (l.unrollTo column).broken :=
  unroll_broken column _ l

theorem roll_broken (column position : Nat) (t : Token) :
    l.broken.roll column position t = (l.roll column position t).broken := by
  unfold roll
  by_cases opens : (!l.inFlow && l.indent < column) = true
  · have opens' : (!l.broken.inFlow && l.broken.indent < column) = true := opens
    rw [if_pos opens, if_pos opens']
    rfl
  · have opens' : ¬ (!l.broken.inFlow && l.broken.indent < column) = true := opens
    rw [if_neg opens, if_neg opens']

theorem rollHere_broken (t : Token) : l.broken.rollHere t = (l.rollHere t).broken := roll_broken l _ _ t

variable {l}

theorem mark_broken (some : l.cursor.rest ≠ []) (t : Token) : l.broken.mark t = (l.mark t).broken := by
  rw [mark, cursor_broken, Cursor.skip_broken some]
  rfl

end

/-- The last token is a block scalar that goes on to the end of the text, and where there is a break it
has the break in it. -/
def KeepsBreak (cs : List Char) (text : List Char) : Prop :=
  ∃ (mark : Char) (c d : Cursor) (literal : Bool) (parent : Int), (mark = '|' ∨ mark = '>') ∧
    mark :: c.rest <:+ cs ∧ block? literal parent c = some (text, d) ∧ d.rest = []

theorem KeepsBreak.widen {part cs text : List Char} (keeps : KeepsBreak part text) (behind : part <:+ cs) :
    KeepsBreak cs text := by
  obtain ⟨mark, c, d, literal, parent, bar, stands, read⟩ := keeps
  exact ⟨mark, c, d, literal, parent, bar, stands.trans behind, read⟩

/-- Both texts have been read to their ends. -/
structure Ended (cs : List Char) (l l' : Lexer) : Prop where
  spent : l.cursor.rest = []
  spent' : l'.cursor.rest = []
  keys : l'.keys = l.keys
  indent : l'.indent = l.indent
  outer : l'.outer = l.outer
  emitted : l'.emitted = l.emitted ∨ ∃ text before, KeepsBreak cs text ∧
    l.emitted = .scalar false (String.ofList text) :: before ∧
    l'.emitted = .scalar false (String.ofList (text ++ ['\n'])) :: before

/-- Lexers that have read the same: they are at one place, or at the ends of their texts. -/
inductive Beside (cs : List Char) : Lexer → Lexer → Prop
  | before (l : Lexer) : Beside cs l l.broken
  | behind {l l' : Lexer} : Ended cs l l' → Beside cs l l'

theorem beside_of_map {cs : List Char} {x y : Option Lexer} (same : y = x.map broken) :
    Option.Rel (Beside cs) x y := by
  subst same
  cases x with
  | none => exact .none
  | some l => exact .some (.before l)

/-! ## One token at a time -/

section
variable {l : Lexer} {cs : List Char}

theorem openFlow?_broken (some : l.cursor.rest ≠ []) (t : Token) :
    l.broken.openFlow? t = (l.openFlow? t).map broken := by
  refine rel_map_iff.mp (rel_bind (rel_map_iff.mpr l.noteKey?_broken) ?_)
  rintro noted _ note rfl
  have some' : noted.cursor.rest ≠ [] := by rw [(noteKey?_same note).1]; exact some
  exact .some (mark_broken (l := { noted with keys := none :: noted.keys, keyAllowed := true }) some' t)

theorem closeFlow?_broken (some : l.cursor.rest ≠ []) (t : Token) :
    l.broken.closeFlow? t = (l.closeFlow? t).map broken := by
  refine rel_map_iff.mp (rel_bind (rel_map_iff.mpr l.dropKey?_broken) ?_)
  rintro dropped _ drop rfl
  have some' : dropped.cursor.rest ≠ [] := by rw [cursor_dropKey? drop]; exact some
  exact .some (mark_broken
    (l := { dropped with keys := if dropped.inFlow then dropped.keys.tail else dropped.keys, keyAllowed := false })
    some' t)

theorem comma_broken (some : l.cursor.rest ≠ []) :
    l.broken.dropKey?.map (fun l => (l.allowKey true).mark .flowEntry) =
      (l.dropKey?.map fun l => (l.allowKey true).mark .flowEntry).map broken := by
  rw [dropKey?_broken]
  cases drop : l.dropKey? with
  | none => rfl
  | some dropped =>
      have some' : dropped.cursor.rest ≠ [] := by rw [cursor_dropKey? drop]; exact some
      exact congrArg Option.some (mark_broken (l := dropped.allowKey true) some' .flowEntry)

theorem cursor_unrollTo (l : Lexer) (column : Int) : (l.unrollTo column).cursor = l.cursor := by
  have same : ∀ (n : Nat) (l : Lexer), (unroll column n l).cursor = l.cursor := by
    intro n
    induction n with
    | zero => exact fun _ => rfl
    | succ n ih =>
        intro l
        unfold unroll
        split
        · rfl
        · exact ih _
  exact same _ l

theorem cursor_roll (l : Lexer) (column position : Nat) (t : Token) : (l.roll column position t).cursor = l.cursor := by
  unfold roll
  split <;> rfl

theorem length_documentMark {cs : List Char} (mark : atDocumentMark cs = true) : 3 ≤ cs.length := by
  unfold atDocumentMark at mark
  split at mark
  · simp only [List.length_cons]
    omega
  · simp only [List.length_cons]
    omega
  · cases mark

theorem documentMark?_broken (long : 3 ≤ l.cursor.rest.length) (t : Token) :
    l.broken.documentMark? t = (l.documentMark? t).map broken := by
  unfold documentMark?
  rw [unrollTo_broken]
  refine rel_map_iff.mp (rel_bind (rel_map_iff.mpr (dropKey?_broken _)) ?_)
  rintro dropped _ drop rfl
  have cursor : dropped.cursor = l.cursor := by rw [cursor_dropKey? drop, cursor_unrollTo]
  rw [cursor_broken, cursor, Cursor.skipMany_broken long]
  exact .some rfl

/-- A dash or a question mark that begins an entry of a block. -/
theorem indicator_broken (some : l.cursor.rest ≠ []) (opening t : Token) (allowed : Lexer → Bool)
    (same : ∀ l : Lexer, allowed l.broken = allowed l) :
    ((l.broken.rollHere opening).dropKey?.bind fun l => Option.some ((l.allowKey (allowed l)).mark t)) =
      ((l.rollHere opening).dropKey?.bind fun l => Option.some ((l.allowKey (allowed l)).mark t)).map broken := by
  rw [rollHere_broken]
  refine rel_map_iff.mp (rel_bind (rel_map_iff.mpr (dropKey?_broken _)) ?_)
  rintro dropped _ drop rfl
  have some' : dropped.cursor.rest ≠ [] := by
    rw [cursor_dropKey? drop, rollHere, cursor_roll]
    exact some
  rw [same]
  exact .some (mark_broken (l := dropped.allowKey (allowed dropped)) some' t)

theorem blockEntry?_broken (some : l.cursor.rest ≠ []) : l.broken.blockEntry? = l.blockEntry?.map broken := by
  unfold blockEntry?
  rw [inFlow_broken, keyAllowed_broken]
  split
  · rfl
  · exact indicator_broken some .blockSequenceStart .blockEntry (fun _ => true) fun _ => rfl

theorem key?_broken (some : l.cursor.rest ≠ []) : l.broken.key? = l.key?.map broken := by
  unfold key?
  rw [inFlow_broken, keyAllowed_broken]
  split
  · rfl
  · exact indicator_broken some .blockMappingStart .key (fun l => !l.inFlow) fun _ => rfl

theorem value?_broken (some : l.cursor.rest ≠ []) : l.broken.value? = l.value?.map broken := by
  have marked : ∀ k : Lexer, k.cursor = l.cursor → k.broken.mark .value = (k.mark .value).broken := by
    intro k cursor
    exact mark_broken (by rw [cursor]; exact some) .value
  have unkeyed : ∀ k : Lexer, k.cursor = l.cursor →
      (if (!k.broken.inFlow && !k.broken.keyAllowed) = true then none
        else Option.some (((k.broken.rollHere .blockMappingStart).allowKey (!k.broken.inFlow)).mark .value)) =
      Option.map broken (if (!k.inFlow && !k.keyAllowed) = true then none
        else Option.some (((k.rollHere .blockMappingStart).allowKey (!k.inFlow)).mark .value)) := by
    intro k cursor
    rw [inFlow_broken, keyAllowed_broken, rollHere_broken]
    split
    · rfl
    · exact congrArg Option.some (marked ((k.rollHere .blockMappingStart).allowKey (!k.inFlow))
        ((cursor_roll k _ _ _).trans cursor))
  have keys : l.broken.keys = l.keys := rfl
  unfold value?
  rw [keys]
  dsimp only
  split
  · next k _ _ =>
      by_cases reaches : KeyPlace.reaches k l.cursor = true
      · have reaches' : KeyPlace.reaches k l.broken.cursor = true := reaches
        have inserted : l.broken.insertAt k.position .key = (l.insertAt k.position .key).broken := rfl
        rw [if_pos reaches, if_pos reaches', inserted, roll_broken]
        exact congrArg Option.some (marked
          ((((l.insertAt k.position .key).roll k.column k.position .blockMappingStart).setKey none).allowKey false)
          (cursor_roll (l.insertAt k.position .key) _ _ _))
      · have reaches' : ¬ KeyPlace.reaches k l.broken.cursor = true := reaches
        rw [if_neg reaches, if_neg reaches']
        split
        · rfl
        · exact unkeyed (l.setKey none) rfl
  · exact unkeyed l rfl

theorem keyToken?_broken {read : Cursor → Option (Token × Cursor)}
    (same : read l.cursor.broken = (read l.cursor).map breakBehind) :
    l.broken.keyToken? read = (l.keyToken? read).map broken := by
  refine rel_map_iff.mp (rel_bind (rel_map_iff.mpr l.noteKey?_broken) ?_)
  rintro noted _ note rfl
  have same' : read noted.broken.cursor = (read noted.cursor).map breakBehind := by
    rw [cursor_broken, (noteKey?_same note).1, same]
  refine rel_bind (rel_map_iff.mpr same') ?_
  rintro x _ - rfl
  exact .some rfl

theorem quotedToken?_broken (single : Bool) {c : Cursor} (settled : Settled c.rest) (some : c.rest ≠ []) :
    quotedToken? single c.broken = (quotedToken? single c).map breakBehind := by
  have shorter := Cursor.length_skip_lt some
  have length : c.broken.rest.length + 1 = c.rest.length + 1 + 1 := by
    rw [Cursor.rest_broken, List.length_append]
    rfl
  rw [quotedToken?, quotedToken?, Cursor.skip_broken some, length,
    quoted?_broken single (c.rest.length + 1) c.skip (by omega) (settled.suffix c.rest_skip), Option.map_map,
    Option.map_map]
  rfl

theorem anchor_broken (some : l.cursor.rest ≠ []) (token : String → Token) :
    (anchorName? l.cursor.broken).map (fun x => (token x.1, x.2)) =
      ((anchorName? l.cursor).map fun x => (token x.1, x.2)).map breakBehind := by
  rw [anchorName?_broken _ some, Option.map_map, Option.map_map]
  rfl

/-- A token that is put out where the cursors stand beside each other. -/
theorem beside_emit (k : Lexer) (b : Bool) (t : Token) {c c' : Cursor} (place : c.Beside c') :
    Beside cs (((k.allowKey b).withCursor c).emit t) (((k.broken.allowKey b).withCursor c').emit t) := by
  cases place with
  | before => exact .before _
  | behind spent spent' => exact .behind ⟨spent, spent', rfl, rfl, rfl, .inl rfl⟩

theorem directive_broken (settled : Settled l.cursor.rest) (some : l.cursor.rest ≠ []) :
    Option.Rel (Beside cs)
      ((l.unrollTo (-1)).dropKey?.bind fun l => (directive? l.cursor).bind fun x =>
        Option.some (((l.allowKey false).withCursor x.2).emit x.1))
      ((l.broken.unrollTo (-1)).dropKey?.bind fun l => (directive? l.cursor).bind fun x =>
        Option.some (((l.allowKey false).withCursor x.2).emit x.1)) := by
  rw [unrollTo_broken]
  refine rel_bind (rel_map_iff.mpr (dropKey?_broken _)) ?_
  rintro dropped _ drop rfl
  have cursor : dropped.cursor = l.cursor := by rw [cursor_dropKey? drop, cursor_unrollTo]
  rw [cursor_broken, cursor]
  refine rel_bind (directive?_broken l.cursor settled some) ?_
  rintro ⟨t, c⟩ ⟨_, c'⟩ - ⟨rfl, place⟩
  exact .some (beside_emit dropped false _ place)

theorem block_broken (literal : Bool) (settled : Settled l.cursor.rest) {mark : Char} {r : List Char}
    (here : l.cursor.rest = mark :: r) (bar : mark = '|' ∨ mark = '>') :
    Option.Rel (Beside l.cursor.rest) (l.blockToken? literal) (l.broken.blockToken? literal) := by
  refine rel_bind (rel_map_iff.mpr l.dropKey?_broken) ?_
  rintro dropped _ drop rfl
  have indent : dropped.broken.indent = dropped.indent := rfl
  rw [cursor_broken, cursor_dropKey? drop, Cursor.skip_broken (by simp [here]), indent]
  refine rel_bind (block?_broken literal dropped.indent (settled.suffix l.cursor.rest_skip)) ?_
  rintro ⟨text, c⟩ ⟨text', c'⟩ read (⟨rfl, place⟩ | ⟨rfl, spent, spent'⟩)
  · exact .some (beside_emit dropped true _ place)
  · refine .some (.behind ⟨spent, spent', rfl, rfl, rfl, .inr ⟨text, dropped.emitted, ?_, rfl, rfl⟩⟩)
    refine ⟨mark, l.cursor.skip, c, literal, dropped.indent, bar, ?_, read, spent⟩
    rw [Cursor.skip, here]
    exact List.suffix_rfl

theorem plain_broken (settled : Settled l.cursor.rest) :
    Option.Rel (Beside cs) l.plainToken? l.broken.plainToken? := by
  refine rel_bind (rel_map_iff.mpr l.noteKey?_broken) ?_
  rintro noted _ note rfl
  have indent : noted.broken.indent = noted.indent := rfl
  rw [cursor_broken, (noteKey?_same note).1, inFlow_broken, indent, Cursor.length_broken]
  refine rel_bind (plain?_broken noted.inFlow (noted.indent + 1) (l.cursor.rest.length + 1) l.cursor .none
    (Nat.lt_succ_self _) settled) fun s s' _ same => ?_
  cases same with
  | before => exact .some (.before _)
  | behind text spent spent' =>
      refine .some (.behind ⟨spent, spent', rfl, rfl, rfl, .inl ?_⟩)
      exact congrArg (fun cs => Token.scalar true (String.ofList cs) :: noted.emitted) text

theorem startsPlain_broken (flow : Bool) {cs : List Char} (some : cs ≠ []) :
    startsPlain flow (cs ++ ['\n']) = startsPlain flow cs := by
  obtain ⟨ch, r, rfl⟩ := List.exists_cons_of_ne_nil some
  rw [List.cons_append, startsPlain, startsPlain, atGap_broken, head?_any_broken (by decide)]

/-- The branches are those of `next?`, in its order. -/
theorem next?_broken (settled : Settled l.cursor.rest) (some : l.cursor.rest ≠ []) :
    Option.Rel (Beside l.cursor.rest) l.next? l.broken.next? := by
  obtain ⟨ch, r, here⟩ := List.exists_cons_of_ne_nil some
  have here' : l.broken.cursor.rest = ch :: (r ++ ['\n']) := by
    rw [cursor_broken, Cursor.rest_broken, here, List.cons_append]
  have gap : (l.broken.inFlow || atGap l.broken.cursor.rest.tail) = (l.inFlow || atGap l.cursor.rest.tail) := by
    rw [here, here', List.tail_cons, List.tail_cons, atGap_broken, inFlow_broken]
  have mark : atDocumentMark l.broken.cursor.rest = atDocumentMark l.cursor.rest := atDocumentMark_broken _
  have plain : startsPlain l.broken.inFlow l.broken.cursor.rest = startsPlain l.inFlow l.cursor.rest :=
    startsPlain_broken _ some
  have document : l.broken.cursor.column = l.cursor.column := rfl
  have tagged : ∀ read : Cursor → Option (Token × Cursor),
      read l.cursor.broken = (read l.cursor).map breakBehind →
      Option.Rel (Beside l.cursor.rest) (l.keyToken? read) (l.broken.keyToken? read) := fun read same =>
    beside_of_map (keyToken?_broken same)
  obtain ⟨cs, whole⟩ : ∃ cs, cs = l.cursor.rest := ⟨_, rfl⟩
  rw [← whole] at tagged ⊢
  unfold next?
  dsimp only
  rw [gap, mark, plain, inFlow_broken, here, here', document]
  refine rel_ite Iff.rfl (fun _ => directive_broken settled some) fun _ => ?_
  refine rel_ite Iff.rfl (fun marked => beside_of_map (documentMark?_broken ?_ _)) fun _ => ?_
  · rw [here]
    exact length_documentMark marked.2
  refine rel_ite Iff.rfl (fun _ => beside_of_map (openFlow?_broken some _)) fun _ => ?_
  refine rel_ite Iff.rfl (fun _ => beside_of_map (openFlow?_broken some _)) fun _ => ?_
  refine rel_ite Iff.rfl (fun _ => beside_of_map (closeFlow?_broken some _)) fun _ => ?_
  refine rel_ite Iff.rfl (fun _ => beside_of_map (closeFlow?_broken some _)) fun _ => ?_
  refine rel_ite Iff.rfl (fun _ => beside_of_map (comma_broken some)) fun _ => ?_
  refine rel_ite (by rw [atGap_broken]) (fun _ => beside_of_map (blockEntry?_broken some)) fun _ => ?_
  refine rel_ite Iff.rfl (fun _ => beside_of_map (key?_broken some)) fun _ => ?_
  refine rel_ite Iff.rfl (fun _ => beside_of_map (value?_broken some)) fun _ => ?_
  refine rel_ite Iff.rfl (fun _ => tagged _ (anchor_broken some .alias)) fun _ => ?_
  refine rel_ite Iff.rfl (fun _ => tagged _ (anchor_broken some .anchor)) fun _ => ?_
  refine rel_ite Iff.rfl (fun _ => tagged _ (tag?_broken _ _)) fun _ => ?_
  refine rel_ite Iff.rfl (fun bar => ?_) fun _ => ?_
  · rw [whole]
    exact block_broken true settled here (.inl bar.1)
  refine rel_ite Iff.rfl (fun bar => ?_) fun _ => ?_
  · rw [whole]
    exact block_broken false settled here (.inr bar.1)
  refine rel_ite Iff.rfl (fun _ => tagged _ (quotedToken?_broken true settled some)) fun _ => ?_
  refine rel_ite Iff.rfl (fun _ => tagged _ (quotedToken?_broken false settled some)) fun _ => ?_
  exact rel_ite Iff.rfl (fun _ => plain_broken settled) fun _ => .none

end

/-! ## Progress -/

section
variable {l l' : Lexer}

theorem cursor_openFlow? {t : Token} (h : l.openFlow? t = some l') : l'.cursor = l.cursor.skip := by
  obtain ⟨noted, note, h⟩ := Option.bind_eq_some_iff.mp h
  cases h
  exact congrArg Cursor.skip (noteKey?_same note).1

theorem cursor_closeFlow? {t : Token} (h : l.closeFlow? t = some l') : l'.cursor = l.cursor.skip := by
  obtain ⟨dropped, drop, h⟩ := Option.bind_eq_some_iff.mp h
  cases h
  have cursor := cursor_dropKey? drop
  exact congrArg Cursor.skip cursor

theorem cursor_comma (h : l.dropKey?.map (fun l => (l.allowKey true).mark .flowEntry) = some l') :
    l'.cursor = l.cursor.skip := by
  obtain ⟨dropped, drop, same⟩ := Option.map_eq_some_iff.mp h
  cases same
  have cursor := cursor_dropKey? drop
  exact congrArg Cursor.skip cursor

theorem cursor_of_blockEntry (h : l.blockEntry? = some l') : l'.cursor = l.cursor.skip := by
  obtain ⟨-, h⟩ := Option.ite_none_left_eq_some.mp h
  obtain ⟨dropped, drop, h⟩ := Option.bind_eq_some_iff.mp h
  cases h
  exact congrArg Cursor.skip ((cursor_dropKey? drop).trans (cursor_roll l _ _ _))

theorem cursor_key? (h : l.key? = some l') : l'.cursor = l.cursor.skip := by
  obtain ⟨-, h⟩ := Option.ite_none_left_eq_some.mp h
  obtain ⟨dropped, drop, h⟩ := Option.bind_eq_some_iff.mp h
  cases h
  exact congrArg Cursor.skip ((cursor_dropKey? drop).trans (cursor_roll l _ _ _))

theorem cursor_value? (h : l.value? = some l') : l'.cursor = l.cursor.skip := by
  have unkeyed : ∀ k : Lexer, k.cursor = l.cursor →
      (if !k.inFlow && !k.keyAllowed then none
        else some (((k.rollHere .blockMappingStart).allowKey (!k.inFlow)).mark .value)) = some l' →
      l'.cursor = l.cursor.skip := by
    intro k cursor h
    obtain ⟨-, h⟩ := Option.ite_none_left_eq_some.mp h
    cases h
    exact congrArg Cursor.skip ((cursor_roll k _ _ _).trans cursor)
  unfold value? at h
  dsimp only at h
  split at h
  · next k _ _ =>
      split at h
      · cases h
        exact congrArg Cursor.skip (cursor_roll (l.insertAt k.position .key) _ _ _)
      · split at h
        · cases h
        · exact unkeyed (l.setKey none) rfl h
  · exact unkeyed l rfl h

theorem behind_keyToken? {read : Cursor → Option (Token × Cursor)} (h : l.keyToken? read = some l')
    (behind : ∀ t d, read l.cursor = some (t, d) → d.rest <:+ l.cursor.skip.rest) :
    l'.cursor.rest <:+ l.cursor.skip.rest := by
  obtain ⟨noted, note, h⟩ := Option.bind_eq_some_iff.mp h
  obtain ⟨⟨t, c⟩, scanned, h⟩ := Option.bind_eq_some_iff.mp h
  cases h
  rw [(noteKey?_same note).1] at scanned
  exact behind t c scanned

theorem behind_name (token : String → Token)
    (h : l.keyToken? (fun c => (anchorName? c).map fun (n, c) => (token n, c)) = some l') :
    l'.cursor.rest <:+ l.cursor.skip.rest := by
  refine behind_keyToken? h fun t d read => ?_
  obtain ⟨⟨n, e⟩, named, same⟩ := Option.map_eq_some_iff.mp read
  cases same
  obtain ⟨-, same⟩ := Option.ite_none_left_eq_some.mp named
  cases same
  exact rest_name _

theorem behind_quote {single : Bool} (h : l.keyToken? (quotedToken? single) = some l') :
    l'.cursor.rest <:+ l.cursor.skip.rest := by
  refine behind_keyToken? h fun t d read => ?_
  obtain ⟨⟨text, e⟩, scanned, same⟩ := Option.map_eq_some_iff.mp read
  cases same
  obtain ⟨stretch, split, -⟩ := quoted?_stretch _ _ _ _ _ scanned
  rw [split]
  exact (List.suffix_cons ..).trans (List.suffix_append ..)

theorem behind_blockToken? {literal : Bool} (h : l.blockToken? literal = some l') :
    l'.cursor.rest <:+ l.cursor.skip.rest := by
  obtain ⟨dropped, drop, h⟩ := Option.bind_eq_some_iff.mp h
  obtain ⟨⟨text, c⟩, scanned, h⟩ := Option.bind_eq_some_iff.mp h
  cases h
  rw [cursor_dropKey? drop] at scanned
  exact (block?_spelling _ _ _ _ _ scanned).1

theorem inFlow_noteKey? (h : l.noteKey? = some l') : l'.inFlow = l.inFlow := by
  have set : ∀ (k : Option KeyPlace) (l : Lexer), (l.setKey k).inFlow = l.inFlow := by
    intro k l
    unfold inFlow setKey
    cases keys : l.keys <;> simp
  have dropped : ∀ l' : Lexer, l.dropKey? = some l' → l'.inFlow = l.inFlow := by
    intro l' h
    unfold dropKey? at h
    split at h
    · split at h <;> cases h
      exact set none l
    · cases h
      rfl
  unfold noteKey? at h
  split at h
  · obtain ⟨k, drop, h⟩ := Option.bind_eq_some_iff.mp h
    cases h
    exact (set _ k).trans (dropped k drop)
  · cases h
    rfl

/-- Where a plain scalar may begin, its first word is not empty. -/
theorem plainWord?_ne_nil {flow : Bool} {cs word : List Char} (starts : startsPlain flow cs = true)
    (read : plainWord? flow cs = some word) : word ≠ [] := by
  cases cs with
  | nil => cases starts
  | cons ch r =>
      have marks : isFlowMark ch = true → ch = ',' ∨ ch = '[' ∨ ch = ']' ∨ ch = '\x7b' ∨ ch = '\x7d' := by
        simp [isFlowMark, or_assoc]
      have no_gap : isSpaceOrBreak ch = false := by
        refine Bool.eq_false_iff.mpr fun gap => ?_
        have dash : ch ≠ '-' := by
          rintro rfl
          cases gap
        have sign : ¬ (ch = '?' ∨ ch = ':') := by
          rintro (rfl | rfl) <;> cases gap
        rw [startsPlain, if_neg dash, if_neg sign, gap] at starts
        cases starts
      have no_end : ¬ (ch = ':' ∧ atGap r = true) := by
        rintro ⟨rfl, gap⟩
        simp [startsPlain, gap] at starts
      have no_mark : ¬ (flow = true ∧ isFlowMark ch = true) := by
        rintro ⟨-, mark⟩
        rcases marks mark with rfl | rfl | rfl | rfl | rfl <;> simp [startsPlain] at starts
      unfold plainWord? at read
      rw [no_gap, if_neg Bool.false_ne_true] at read
      split at read
      · cases read
      · obtain ⟨more, -, rfl⟩ := Option.map_eq_some_iff.mp read
        exact List.cons_ne_nil _ _

theorem length_plainToken?_lt (h : l.plainToken? = some l')
    (free : ¬ (l.cursor.column = 0 ∧ atDocumentMark l.cursor.rest = true))
    (starts : startsPlain l.inFlow l.cursor.rest = true) : l'.cursor.rest.length < l.cursor.rest.length := by
  obtain ⟨noted, note, h⟩ := Option.bind_eq_some_iff.mp h
  obtain ⟨s, scanned, h⟩ := Option.bind_eq_some_iff.mp h
  cases h
  change s.next.rest.length < _
  rw [(noteKey?_same note).1, inFlow_noteKey? note] at scanned
  have comment : ¬ l.cursor.rest.head? = some '#' := by
    intro first
    obtain ⟨r, here⟩ := List.head?_eq_some_iff.mp first
    rw [here] at starts
    simp [startsPlain] at starts
  rw [plain?_succ, if_neg (not_or.mpr ⟨free, comment⟩)] at scanned
  obtain ⟨word, read, scanned⟩ := Option.bind_eq_some_iff.mp scanned
  have some := List.length_pos_iff.mpr (plainWord?_ne_nil starts read)
  have within := (prefix_of_plainWord? _ _ _ read).length_le
  have further := (rest_plainAfter? scanned).length_le
  rw [Cursor.skipMany, List.length_drop] at further
  omega

/-- Every token takes a character. -/
theorem length_next?_lt (read : l.next? = some l') : l'.cursor.rest.length < l.cursor.rest.length := by
  unfold next? at read
  dsimp only at read
  split at read
  · cases read
  next ch r here =>
  have more : l.cursor.rest ≠ [] := by simp [here]
  have behind : ∀ d : Cursor, d.rest <:+ l.cursor.skip.rest → d.rest.length < l.cursor.rest.length := fun d further =>
    Nat.lt_of_le_of_lt further.length_le (Cursor.length_skip_lt more)
  have skipped : l'.cursor = l.cursor.skip → l'.cursor.rest.length < l.cursor.rest.length := by
    intro same
    rw [same]
    exact behind _ List.suffix_rfl
  refine of_ite (fun _ read => ?_) (fun _ => ?_) read
  · obtain ⟨dropped, drop, read⟩ := Option.bind_eq_some_iff.mp read
    obtain ⟨⟨t, c⟩, directive, read⟩ := Option.bind_eq_some_iff.mp read
    cases read
    rw [cursor_dropKey? drop, cursor_unrollTo] at directive
    exact behind c (behind_directive? directive).2
  refine of_ite (fun mark read => ?_) (fun free => ?_)
  · obtain ⟨dropped, drop, read⟩ := Option.bind_eq_some_iff.mp read
    cases read
    have long := length_documentMark mark.2
    have passed : (dropped.cursor.skipMany 3).rest.length < l.cursor.rest.length := by
      rw [cursor_dropKey? drop, cursor_unrollTo, Cursor.skipMany, List.length_drop]
      omega
    exact passed
  refine of_ite (fun _ read => skipped (cursor_openFlow? read)) (fun _ => ?_)
  refine of_ite (fun _ read => skipped (cursor_openFlow? read)) (fun _ => ?_)
  refine of_ite (fun _ read => skipped (cursor_closeFlow? read)) (fun _ => ?_)
  refine of_ite (fun _ read => skipped (cursor_closeFlow? read)) (fun _ => ?_)
  refine of_ite (fun _ read => skipped (cursor_comma read)) (fun _ => ?_)
  refine of_ite (fun _ read => skipped (cursor_of_blockEntry read)) (fun _ => ?_)
  refine of_ite (fun _ read => skipped (cursor_key? read)) (fun _ => ?_)
  refine of_ite (fun _ read => skipped (cursor_value? read)) (fun _ => ?_)
  refine of_ite (fun _ read => behind _ (behind_name .alias read)) (fun _ => ?_)
  refine of_ite (fun _ read => behind _ (behind_name .anchor read)) (fun _ => ?_)
  refine of_ite (fun _ read => behind _ (behind_keyToken? read fun _ _ tag => (behind_tag? tag).2)) (fun _ => ?_)
  refine of_ite (fun _ read => behind _ (behind_blockToken? read)) (fun _ => ?_)
  refine of_ite (fun _ read => behind _ (behind_blockToken? read)) (fun _ => ?_)
  refine of_ite (fun _ read => behind _ (behind_quote read)) (fun _ => ?_)
  refine of_ite (fun _ read => behind _ (behind_quote read)) (fun _ => ?_)
  exact of_ite (fun starts read => length_plainToken?_lt read free starts) (fun _ read => by cases read)

end

/-! ## All tokens -/

theorem toToken_nil (fuel : Nat) {l : Lexer} (spent : l.cursor.rest = []) : toToken fuel l = l := by
  cases fuel with
  | zero => rfl
  | succ fuel =>
      obtain ⟨⟨rest, index, line, column⟩, emitted, keys, indent, outer, allowed⟩ := l
      cases spent
      simp [toToken, Cursor.skipWhile, Cursor.skipMany, withCursor]

theorem lineEnd_broken (l : Lexer) : l.broken.lineEnd = l.lineEnd.broken := by
  have stops : (fun ch => ch == ' ' || (ch == '\t' && (l.inFlow || !l.keyAllowed))) '\n' = false := rfl
  have mark : (if l.broken.cursor.column = 0 ∧ l.broken.cursor.rest.head? = some '\ufeff' then
      l.broken.cursor.skip else l.broken.cursor) =
      (if l.cursor.column = 0 ∧ l.cursor.rest.head? = some '\ufeff' then l.cursor.skip else l.cursor).broken := by
    simp only [cursor_broken, Cursor.column_broken, Cursor.rest_broken, head?_broken (show '\n' ≠ '\ufeff' by decide)]
    split
    · next mark => rw [Cursor.skip_broken (ne_nil_of_head? mark.2)]
    · rfl
  rw [lineEnd, mark, inFlow_broken, keyAllowed_broken, Cursor.lineEnd_broken stops, lineEnd]

/-- Up to the next token, or to the end of both texts. -/
theorem toToken_broken (cs : List Char) (fuel : Nat) : ∀ l : Lexer, l.cursor.rest.length < fuel →
    Settled l.cursor.rest →
      (toToken (fuel + 1) l.broken = (toToken fuel l).broken ∧ (toToken fuel l).cursor.rest ≠ []) ∨
      Ended cs (toToken fuel l) (toToken (fuel + 1) l.broken) := by
  induction fuel with
  | zero => exact fun l enough => absurd enough (Nat.not_lt_zero _)
  | succ fuel ih =>
      intro l enough settled
      have settled' := settled.suffix l.rest_lineEnd
      rw [toToken_succ (fuel + 1), toToken_succ fuel l, lineEnd_broken]
      by_cases spent : l.lineEnd.rest = []
      · refine .inr ?_
        rw [if_neg (by simp [spent]), if_pos (by rw [Cursor.rest_broken_nil spent]; decide),
          Cursor.skipBreak_broken_nil spent, toToken_nil _ rfl]
        exact ⟨spent, rfl, rfl, rfl, rfl, .inl rfl⟩
      rw [Cursor.rest_broken, head?_front spent]
      by_cases break_ : l.lineEnd.rest.head?.any isBreak = true
      · obtain ⟨ch, r, here⟩ := List.exists_cons_of_ne_nil spent
        have isBreak : isBreak ch = true := by simpa [here] using break_
        have shorter := Cursor.length_skipBreak_lt here isBreak
        have within := l.rest_lineEnd.length_le
        rw [if_pos break_, if_pos break_, Cursor.skipBreak_broken spent settled']
        exact ih { l with cursor := l.lineEnd.skipBreak, keyAllowed := l.keyAllowed || !l.inFlow }
          (Nat.lt_of_lt_of_le shorter (by omega)) (settled'.suffix l.lineEnd.rest_skipBreak)
      · rw [if_neg break_, if_neg break_]
        exact .inl ⟨rfl, spent⟩

/-- At the end of the text the blocks are closed, however many of them have been already. -/
theorem unrollTo_unrollTo (l : Lexer) {outer inner : Int} (less : outer ≤ inner) :
    (l.unrollTo inner).unrollTo outer = l.unrollTo outer := by
  have steps : ∀ (n : Nat) (l : Lexer), l.outer.length = n →
      unroll outer (unroll inner n l).outer.length (unroll inner n l) = unroll outer n l := by
    intro n
    induction n with
    | zero =>
        intro l none
        have same : unroll inner 0 l = l := rfl
        rw [same, none]
    | succ n ih =>
        intro l some
        by_cases stays : l.inFlow = true ∨ l.indent ≤ inner
        · have same : unroll inner (n + 1) l = l := by rw [unroll, if_pos stays]
          rw [same, some]
        · have stays' : ¬ (l.inFlow = true ∨ l.indent ≤ outer) := fun both =>
            stays (both.imp_right fun low => Int.le_trans low less)
          have closed : ({ l.emit .blockEnd with
              indent := l.outer.headD (-1), outer := l.outer.tail } : Lexer).outer.length = n := by
            simp [some]
          rw [unroll, if_neg stays, ih _ closed, unroll, if_neg stays']
  exact steps _ l rfl

end Lexer

/-- The same tokens, or else the last scalar is a block scalar that keeps the break. -/
def SameTokens (cs : List Char) (ts ts' : List Token) : Prop :=
  ts' = ts ∨ ∃ before text ends, Lexer.KeepsBreak cs text ∧ (∀ t ∈ ends, t = Token.blockEnd) ∧
    ts = before ++ .scalar false (String.ofList text) :: ends ∧
    ts' = before ++ .scalar false (String.ofList (text ++ ['\n'])) :: ends

theorem SameTokens.widen {part cs : List Char} {ts ts' : List Token} (same : SameTokens part ts ts')
    (behind : part <:+ cs) : SameTokens cs ts ts' := by
  obtain same | ⟨before, text, ends, keeps, parts⟩ := same
  · exact .inl same
  · exact .inr ⟨before, text, ends, keeps.widen behind, parts⟩

namespace Lexer

/-- Which blocks are closed depends on the indentation, and not on what has been read. -/
theorem unroll_beside (column : Int) (n : Nat) : ∀ l l' : Lexer, l'.keys = l.keys → l'.indent = l.indent →
    l'.outer = l.outer →
      ∃ ends, (∀ t ∈ ends, t = Token.blockEnd) ∧ (unroll column n l).emitted = ends ++ l.emitted ∧
        (unroll column n l').emitted = ends ++ l'.emitted ∧
        (unroll column n l').keys = (unroll column n l).keys := by
  induction n with
  | zero => exact fun l l' keys _ _ => ⟨[], nofun, rfl, rfl, keys⟩
  | succ n ih =>
      intro l l' keys indent outer
      have flow : l'.inFlow = l.inFlow := by rw [inFlow, inFlow, keys]
      by_cases stays : l.inFlow = true ∨ l.indent ≤ column
      · have stays' : l'.inFlow = true ∨ l'.indent ≤ column := by rwa [flow, indent]
        rw [unroll, if_pos stays, unroll, if_pos stays']
        exact ⟨[], nofun, rfl, rfl, keys⟩
      · have stays' : ¬ (l'.inFlow = true ∨ l'.indent ≤ column) := by rwa [flow, indent]
        rw [unroll, if_neg stays, unroll, if_neg stays']
        obtain ⟨ends, closed, here, here', same⟩ := ih
          { l.emit .blockEnd with indent := l.outer.headD (-1), outer := l.outer.tail }
          { l'.emit .blockEnd with indent := l'.outer.headD (-1), outer := l'.outer.tail }
          keys (congrArg (·.headD (-1)) outer) (congrArg List.tail outer)
        refine ⟨ends ++ [.blockEnd], ?_, ?_, ?_, same⟩
        · intro t among
          obtain earlier | last := List.mem_append.mp among
          · exact closed t earlier
          · exact List.mem_singleton.mp last
        · rw [here, List.append_assoc]
          rfl
        · rw [here', List.append_assoc]
          rfl

theorem emitted_dropKey? {l l' : Lexer} (h : l.dropKey? = some l') : l'.emitted = l.emitted := by
  unfold dropKey? at h
  split at h
  · split at h <;> cases h
    rfl
  · cases h
    rfl

/-- At the ends of both texts the same blocks are closed. -/
theorem close_beside {cs : List Char} {l l' : Lexer} (ended : Ended cs l l') :
    Option.Rel (fun m m' => SameTokens cs m.emitted.reverse m'.emitted.reverse)
      (l.unrollTo (-1)).dropKey? (l'.unrollTo (-1)).dropKey? := by
  obtain ⟨ends, closed, here, here', keys⟩ :=
    unroll_beside (-1) l.outer.length l l' ended.keys ended.indent ended.outer
  have outer : l'.outer.length = l.outer.length := congrArg List.length ended.outer
  rw [unrollTo, unrollTo, outer]
  generalize unroll (-1) l.outer.length l = k at here keys ⊢
  generalize unroll (-1) l.outer.length l' = k' at here' keys ⊢
  have tokens : SameTokens cs k.emitted.reverse k'.emitted.reverse := by
    rw [here, here']
    obtain same | ⟨text, before, keeps, last, last'⟩ := ended.emitted
    · rw [same]
      exact .inl rfl
    · refine .inr ⟨before.reverse, text, ends.reverse, keeps, ?_, ?_, ?_⟩
      · exact fun t among => closed t (List.mem_reverse.mp among)
      · simp [last]
      · simp [last']
  have both : (k.dropKey? = none ∧ k'.dropKey? = none) ∨
      ∃ m m', k.dropKey? = some m ∧ k'.dropKey? = some m' := by
    unfold dropKey?
    rw [keys]
    split
    · split
      · exact .inl ⟨rfl, rfl⟩
      · exact .inr ⟨_, _, rfl, rfl⟩
    · exact .inr ⟨_, _, rfl, rfl⟩
  obtain ⟨none, none'⟩ | ⟨m, m', drop, drop'⟩ := both
  · rw [none, none']
    exact .none
  · rw [drop, drop']
    refine .some ?_
    rw [emitted_dropKey? drop, emitted_dropKey? drop']
    exact tokens

/-- One step of a run, from what stands before the next token. -/
def advance? (fuel : Nat) (l : Lexer) : Option Lexer :=
  if l.cursor.rest.isEmpty then (l.unrollTo (-1)).dropKey? else l.next?.bind (run? fuel)

theorem run?_succ (fuel : Nat) (l : Lexer) {k : Lexer} (passed : toToken (l.cursor.rest.length + 1) l = k) :
    run? (fuel + 1) l = advance? fuel (k.unrollTo k.cursor.column) := by
  subst passed
  rfl

theorem advance?_spent (fuel : Nat) {l : Lexer} (spent : l.cursor.rest = []) :
    advance? fuel (l.unrollTo l.cursor.column) = (l.unrollTo (-1)).dropKey? := by
  have column : (-1 : Int) ≤ l.cursor.column := by omega
  rw [advance?, cursor_unrollTo, if_pos (by simp [spent]), unrollTo_unrollTo l column]

theorem run?_broken (fuel : Nat) : ∀ l : Lexer, l.cursor.rest.length < fuel → Settled l.cursor.rest →
    Option.Rel (fun m m' => SameTokens l.cursor.rest m.emitted.reverse m'.emitted.reverse)
      (run? fuel l) (run? (fuel + 1) l.broken) := by
  induction fuel with
  | zero => exact fun l enough => absurd enough (Nat.not_lt_zero _)
  | succ fuel ih =>
      intro l enough settled
      rw [run?_succ fuel l rfl, run?_succ (fuel + 1) l.broken rfl, cursor_broken, Cursor.length_broken]
      obtain ⟨same, more⟩ | ended := toToken_broken l.cursor.rest (l.cursor.rest.length + 1) l
        (Nat.lt_succ_self _) settled
      · have behind := (leads_toToken (l.cursor.rest.length + 1) l).behind
        rw [same]
        generalize toToken (l.cursor.rest.length + 1) l = k at more behind ⊢
        rw [cursor_broken, Cursor.column_broken, unrollTo_broken, advance?, advance?, cursor_broken, cursor_unrollTo]
        rw [if_neg (by simp [more]), if_neg (by simp)]
        have cursor := cursor_unrollTo k k.cursor.column
        generalize k.unrollTo k.cursor.column = k' at cursor ⊢
        rw [← cursor] at behind more
        refine rel_bind (next?_broken (settled.suffix behind) more) fun m m' next beside => ?_
        have shorter := length_next?_lt next
        have within := behind.length_le
        cases beside with
        | before =>
            have further := (leads_next? next).behind.trans behind
            exact rel_imp (fun _ _ same => same.widen further) (ih m (by omega) (settled.suffix further))
        | behind ended =>
            obtain ⟨n, rfl⟩ : ∃ n, fuel = n + 1 := Nat.exists_eq_add_one.mpr (by omega)
            rw [run?_succ n m rfl, run?_succ (n + 1) m' rfl, toToken_nil _ ended.spent,
              toToken_nil _ ended.spent', advance?_spent _ ended.spent, advance?_spent _ ended.spent']
            exact rel_imp (fun _ _ same => same.widen behind) (close_beside ended)
      · rw [advance?_spent _ ended.spent, advance?_spent _ ended.spent']
        exact close_beside ended

end Lexer

/-- A line break behind a text that ends in neither a blank nor a break gives no token, though the last
scalar may keep it. -/
theorem tokens?_broken {s : String} (settled : Settled s.toList) :
    Option.Rel (SameTokens s.toList) (tokens? s) (tokens? (s ++ "\n")) := by
  have admitted : (s ++ "\n").toList.all isAdmitted = s.toList.all isAdmitted := by
    have break_ : isAdmitted '\n' = true := rfl
    simp [break_]
  have length : (s ++ "\n").toList.length + 1 = s.toList.length + 1 + 1 := by simp
  have start : Lexer.start (s ++ "\n").toList = (Lexer.start s.toList).broken := by
    rw [String.toList_append]
    rfl
  unfold tokens?
  dsimp only
  rw [admitted, length, start]
  refine rel_ite Iff.rfl (fun _ => ?_) fun _ => .none
  exact rel_map (Lexer.run?_broken (s.toList.length + 1) (.start s.toList) (Nat.lt_succ_self _) settled)

end HeatStack.Yaml
