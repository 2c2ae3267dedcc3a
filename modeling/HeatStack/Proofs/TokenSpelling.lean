import HeatStack.Proofs.ScalarSpelling
import HeatStack.Yaml.Lexer

/-! # Where the texts of tokens come from

A scalar token that is letters only stands in the source, or is spelled there between double quotes
with escapes.  `Lexer.Leads` is what every step of the lexer keeps to: it moves on in the source, and
its new scalars are spelled in what it had before it. -/
set_option autoImplicit false
namespace HeatStack.Yaml
open HeatStack.Text

/-- Double quotes in the source with an escape between them, which read as the text. -/
def EscapedSpelling (source text : List Char) : Prop :=
  ∃ stretch after : List Char, '"' :: (stretch ++ '"' :: after) <:+ source ∧ '\\' ∈ stretch ∧
    ∃ (fuel : Nat) (c d : Cursor), c.rest = stretch ++ '"' :: after ∧ d.rest = after ∧
      quoted? false fuel c = some (text, d)

/-- Where the text is letters only, it stands in the source or is spelled there with escapes. -/
def Spelled (source text : List Char) : Prop :=
  Solid text → text <:+: source ∨ EscapedSpelling source text

theorem Spelled.widen {part source text : List Char} (spelled : Spelled part text)
    (behind : part <:+ source) : Spelled source text := by
  intro solid
  obtain stands | ⟨stretch, after, quotes, escaped⟩ := spelled solid
  · exact .inl (stands.trans behind.isInfix)
  · exact .inr ⟨stretch, after, quotes.trans behind, escaped⟩

theorem spelled_plain? (flow : Bool) (indent : Int) (fuel : Nat) (c : Cursor) (s : Scanned)
    (scan : plain? flow indent fuel c .none = some s) : Spelled c.rest s.text := fun solid =>
  .inl (plain?_word flow indent fuel c s scan solid).isInfix

theorem spelled_block? (literal : Bool) (parent : Int) (c d : Cursor) (text : List Char)
    (scan : block? literal parent c = some (text, d)) : Spelled c.rest text := fun solid =>
  .inl ((block?_spelling literal parent c d text scan).2 solid)

theorem spelled_quoted? (single : Bool) (fuel : Nat) (c d : Cursor) (text : List Char)
    (opens : c.rest.head? = some (if single then '\'' else '"'))
    (scan : quoted? single fuel c.skip = some (text, d)) :
    d.rest <:+ c.rest ∧ Spelled c.rest text := by
  obtain ⟨stretch, split, renders⟩ := quoted?_stretch _ _ _ _ _ scan
  have whole : c.rest = (if single then '\'' else '"') :: c.skip.rest := by
    cases here : c.rest with
    | nil =>
        rw [here] at opens
        cases opens
    | cons ch r =>
        rw [here] at opens
        rw [Cursor.skip, here, Option.some.inj opens, List.tail_cons]
  refine ⟨?_, fun solid => ?_⟩
  · rw [whole, split]
    exact ((List.suffix_cons _ d.rest).trans (List.suffix_append ..)).trans (List.suffix_cons ..)
  · obtain rfl | ⟨rfl, escape⟩ := renders solid
    · rw [whole, split]
      exact .inl ⟨[if single then '\'' else '"'], (if single then '\'' else '"') :: d.rest, by simp⟩
    · exact .inr ⟨stretch, d.rest, by rw [whole, split]; exact List.suffix_rfl, escape, fuel, c.skip, d,
        split, rfl, scan⟩

/-- What follows from either branch follows from the choice between them. -/
theorem of_ite {α : Type} {P p : Prop} [Decidable p] {yes no : Option α} {a : α} (ofYes : p → yes = some a → P)
    (ofNo : ¬ p → no = some a → P) (h : (if p then yes else no) = some a) : P := by
  by_cases holds : p
  · rw [if_pos holds] at h
    exact ofYes holds h
  · rw [if_neg holds] at h
    exact ofNo holds h

def Token.isScalar : Token → Bool
  | .scalar .. => true
  | _ => false

/-- A token that ends at another place, and that is spelled before it if it is a scalar. -/
def Yields (c : Cursor) (t : Token) (d : Cursor) : Prop :=
  d.rest <:+ c.rest ∧ ∀ plain text, t = .scalar plain text → Spelled c.rest text.toList

namespace Lexer

/-- Steps of a lexer that move on in the source. -/
structure Leads (l l' : Lexer) : Prop where
  behind : l'.cursor.rest <:+ l.cursor.rest
  spelled : ∀ plain text, .scalar plain text ∈ l'.emitted →
    .scalar plain text ∈ l.emitted ∨ Spelled l.cursor.rest text.toList

theorem Leads.trans {l l' l'' : Lexer} (h : Leads l l') (h' : Leads l' l'') : Leads l l'' := by
  refine ⟨h'.behind.trans h.behind, fun plain text emitted => ?_⟩
  obtain before | spelled := h'.spelled plain text emitted
  · exact h.spelled plain text before
  · exact .inr (spelled.widen h.behind)

theorem leads_of_same {l l' : Lexer} (cursor : l'.cursor = l.cursor) (emitted : l'.emitted = l.emitted) :
    Leads l l' :=
  ⟨cursor ▸ List.suffix_rfl, fun _ _ member => .inl (emitted ▸ member)⟩

theorem leads_refl (l : Lexer) : Leads l l := leads_of_same rfl rfl

theorem leads_allowKey (l : Lexer) (b : Bool) : Leads l (l.allowKey b) := leads_of_same rfl rfl

theorem leads_setKey (l : Lexer) (k : Option KeyPlace) : Leads l (l.setKey k) := leads_of_same rfl rfl

theorem leads_withCursor (l : Lexer) {c : Cursor} (behind : c.rest <:+ l.cursor.rest) :
    Leads l (l.withCursor c) :=
  ⟨behind, fun _ _ member => .inl member⟩

theorem leads_emit (l : Lexer) {t : Token} (silent : t.isScalar = false) : Leads l (l.emit t) := by
  refine ⟨List.suffix_rfl, fun plain text member => ?_⟩
  obtain same | before := List.mem_cons.mp member
  · rw [← same] at silent
    cases silent
  · exact .inl before

theorem leads_mark (l : Lexer) {t : Token} (silent : t.isScalar = false) : Leads l (l.mark t) :=
  (leads_withCursor l l.cursor.rest_skip).trans (leads_emit _ silent)

theorem leads_insertAt (l : Lexer) (position : Nat) {t : Token} (silent : t.isScalar = false) :
    Leads l (l.insertAt position t) := by
  refine ⟨List.suffix_rfl, fun plain text member => ?_⟩
  obtain front | same | back := List.mem_append.mp member |>.imp id List.mem_cons.mp
  · exact .inl (List.mem_of_mem_take front)
  · rw [← same] at silent
    cases silent
  · exact .inl (List.mem_of_mem_drop back)

/-- A token that has been read is put out, and the lexer stands behind it. -/
theorem leads_yields (l : Lexer) (b : Bool) {t : Token} {c : Cursor} (yields : Yields l.cursor t c) :
    Leads l (((l.allowKey b).withCursor c).emit t) := by
  refine ⟨yields.1, fun plain text member => ?_⟩
  obtain same | before := List.mem_cons.mp member
  · exact .inr (yields.2 plain text same.symm)
  · exact .inl before

/-! ## Keys and blocks -/

theorem leads_dropKey? {l l' : Lexer} (h : l.dropKey? = some l') : Leads l l' := by
  unfold dropKey? at h
  split at h
  · split at h <;> cases h
    exact leads_of_same rfl rfl
  · cases h
    exact leads_refl l

theorem cursor_dropKey? {l l' : Lexer} (h : l.dropKey? = some l') : l'.cursor = l.cursor := by
  unfold dropKey? at h
  split at h
  · split at h <;> cases h
    rfl
  · cases h
    rfl

theorem noteKey?_same {l l' : Lexer} (h : l.noteKey? = some l') :
    l'.cursor = l.cursor ∧ Leads l l' := by
  unfold noteKey? at h
  split at h
  · obtain ⟨dropped, drop, h⟩ := Option.bind_eq_some_iff.mp h
    cases h
    have cursor := cursor_dropKey? drop
    exact ⟨cursor, (leads_dropKey? drop).trans (leads_of_same rfl rfl)⟩
  · cases h
    exact ⟨rfl, leads_refl l⟩

theorem leads_unroll (column : Int) (n : Nat) : ∀ l : Lexer, Leads l (unroll column n l) := by
  induction n with
  | zero => exact leads_refl
  | succ n ih =>
      intro l
      unfold unroll
      split
      · exact leads_refl l
      · have closed : Leads l
            { l.emit .blockEnd with indent := l.outer.headD (-1), outer := l.outer.tail } :=
          (leads_emit l (t := .blockEnd) rfl).trans (leads_of_same rfl rfl)
        exact closed.trans (ih _)

theorem leads_unrollTo (l : Lexer) (column : Int) : Leads l (l.unrollTo column) :=
  leads_unroll column _ l

theorem leads_roll (l : Lexer) (column position : Nat) {t : Token} (silent : t.isScalar = false) :
    Leads l (l.roll column position t) := by
  unfold roll
  split
  · exact (leads_insertAt l position silent).trans (leads_of_same rfl rfl)
  · exact leads_refl l

/-- Behind a byte order mark, blanks and a comment. -/
def lineEnd (l : Lexer) : Cursor :=
  (if l.cursor.column = 0 ∧ l.cursor.rest.head? = some '\ufeff' then l.cursor.skip else l.cursor).lineEnd
    fun ch => ch == ' ' || (ch == '\t' && (l.inFlow || !l.keyAllowed))

theorem toToken_succ (fuel : Nat) (l : Lexer) :
    toToken (fuel + 1) l =
      if l.lineEnd.rest.head?.any isBreak then
        toToken fuel { l with cursor := l.lineEnd.skipBreak, keyAllowed := l.keyAllowed || !l.inFlow }
      else l.withCursor l.lineEnd := rfl

theorem rest_lineEnd (l : Lexer) : l.lineEnd.rest <:+ l.cursor.rest := by
  refine (Cursor.rest_lineEnd _ _).trans ?_
  split
  · exact l.cursor.rest_skip
  · exact List.suffix_rfl

theorem leads_toToken (fuel : Nat) : ∀ l : Lexer, Leads l (toToken fuel l) := by
  induction fuel with
  | zero => exact leads_refl
  | succ fuel ih =>
      intro l
      rw [toToken_succ]
      split
      · have next : Leads l
            { l with cursor := l.lineEnd.skipBreak, keyAllowed := l.keyAllowed || !l.inFlow } :=
          ⟨l.lineEnd.rest_skipBreak.trans l.rest_lineEnd, fun _ _ member => .inl member⟩
        exact next.trans (ih _)
      · exact leads_withCursor l l.rest_lineEnd

/-! ## Directives, tags and names -/

theorem rest_name (c : Cursor) : (name c).2.rest <:+ c.rest := c.rest_skipMany _

theorem rest_versionPart? {c d : Cursor} {n : Nat} (h : versionPart? c = some (n, d)) :
    d.rest <:+ c.rest := by
  unfold versionPart? at h
  dsimp only at h
  split at h <;> cases h
  exact c.rest_skipMany _

/-- A handle takes its first mark at least. -/
theorem behind_handle? {directive : Bool} {c d : Cursor} {h : List Char}
    (read : handle? directive c = some (h, d)) : d.rest <:+ c.skip.rest := by
  have further : ∀ n, (c.skipMany (n + 1)).rest <:+ c.skip.rest := by
    intro n
    rw [Cursor.skipMany, Cursor.skip, ← List.drop_one, Nat.add_comm, ← List.drop_drop]
    exact List.drop_suffix _ _
  unfold handle? at read
  split at read
  · dsimp only at read
    split at read
    · cases read
      exact (Cursor.rest_skip _).trans (further _)
    · split at read <;> cases read
      exact further _
  · cases read

theorem rest_tagText? {full : Bool} {before text : List Char} {c d : Cursor}
    (read : tagText? full before c = some (text, d)) : d.rest <:+ c.rest := by
  unfold tagText? at read
  obtain ⟨⟨cs, r⟩, -, read⟩ := Option.bind_eq_some_iff.mp read
  dsimp only at read
  split at read <;> cases read
  exact c.rest_skipMany _

/-- The token of a tag is no scalar, and neither is that of a directive, an alias or an anchor. -/
theorem yields_silent {c d : Cursor} {t : Token} (silent : t.isScalar = false)
    (behind : d.rest <:+ c.rest) : Yields c t d := by
  refine ⟨behind, fun plain text same => ?_⟩
  rw [same] at silent
  cases silent

/-- The handle of a tag and the text behind it. -/
def tagParts? (c : Cursor) : Option (List Char × List Char × Cursor) :=
  if c.rest.tail.head? = some '<' then do
    let (text, c) ← tagText? true [] (c.skipMany 2)
    if c.rest.head? = some '>' then some ([], text, c.skip) else none
  else do
    let (h, c) ← handle? false c
    if isLongHandle h then (tagText? false [] c).map fun (text, c) => (h, text, c)
    else (tagText? false h c).map fun (text, c) =>
      if text.isEmpty then ([], ['!'], c) else (['!'], text, c)

theorem tag?_eq (flow : Bool) (c : Cursor) :
    tag? flow c = (tagParts? c).bind fun x =>
      if (flow ∧ x.2.2.rest.head? = some ',') ∨ atGap x.2.2.rest then
        some (.tag (String.ofList x.1) (String.ofList x.2.1), x.2.2)
      else none := by
  unfold tag? tagParts?
  dsimp only
  split
  · cases tagText? true [] (c.skipMany 2) with
    | none => rfl
    | some x =>
        simp only [Option.bind_eq_bind, Option.bind_some]
        split <;> rfl
  · cases handle? false c with
    | none => rfl
    | some x =>
        simp only [Option.bind_eq_bind, Option.bind_some]
        split
        · cases tagText? false [] x.2 <;> rfl
        · cases tagText? false x.1 x.2 with
          | none => rfl
          | some y =>
              simp only [Option.map_some, Option.bind_some]
              split <;> rfl

theorem behind_tagParts? {c : Cursor} {x : List Char × List Char × Cursor} (read : tagParts? c = some x) :
    x.2.2.rest <:+ c.skip.rest := by
  unfold tagParts? at read
  split at read
  · obtain ⟨⟨text, d⟩, verbatim, read⟩ := Option.bind_eq_some_iff.mp read
    obtain ⟨-, read⟩ := Option.ite_none_right_eq_some.mp read
    cases read
    have two : (c.skipMany 2).rest <:+ c.skip.rest := by
      rw [Cursor.skipMany, Cursor.skip, ← List.drop_one, ← List.drop_drop (i := 1) (j := 1)]
      exact List.drop_suffix _ _
    exact d.rest_skip.trans ((rest_tagText? verbatim).trans two)
  · obtain ⟨⟨h, d⟩, handled, read⟩ := Option.bind_eq_some_iff.mp read
    have start := behind_handle? handled
    dsimp only at read
    split at read
    · obtain ⟨⟨text, e⟩, written, rfl⟩ := Option.map_eq_some_iff.mp read
      exact (rest_tagText? written).trans start
    · obtain ⟨⟨text, e⟩, written, rfl⟩ := Option.map_eq_some_iff.mp read
      dsimp only
      split <;> exact (rest_tagText? written).trans start

theorem behind_tag? {flow : Bool} {c d : Cursor} {t : Token} (read : tag? flow c = some (t, d)) :
    t.isScalar = false ∧ d.rest <:+ c.skip.rest := by
  rw [tag?_eq] at read
  obtain ⟨x, parts, read⟩ := Option.bind_eq_some_iff.mp read
  obtain ⟨-, read⟩ := Option.ite_none_right_eq_some.mp read
  cases read
  exact ⟨rfl, behind_tagParts? parts⟩

theorem yields_tag? {flow : Bool} {c d : Cursor} {t : Token} (read : tag? flow c = some (t, d)) :
    Yields c t d :=
  yields_silent (behind_tag? read).1 ((behind_tag? read).2.trans c.rest_skip)

theorem rest_anchorName? {c d : Cursor} {n : String} (read : anchorName? c = some (n, d)) :
    d.rest <:+ c.rest := by
  obtain ⟨-, same⟩ := Option.ite_none_left_eq_some.mp read
  cases same
  exact (rest_name c.skip).trans c.rest_skip

/-- The token of a directive, from behind its name on. -/
def directiveToken? (n : String) (c : Cursor) : Option (Token × Cursor) :=
  if n = "YAML" then do
    let (major, c) ← versionPart? (c.skipWhile isSpace)
    if c.rest.head? = some '.' then
      (versionPart? c.skip).map fun (minor, c) => (Token.versionDirective major minor, c)
    else none
  else if n = "TAG" then do
    let (h, c) ← handle? true (c.skipWhile isSpace)
    if !c.rest.head?.any isSpace then none
    else do
      let (text, c) ← tagText? true [] (c.skipWhile isSpace)
      if atGap c.rest then some (Token.tagDirective (String.ofList h) (String.ofList text), c)
      else none
  else none

/-- Behind a directive a comment may stand, and nothing else on its line. -/
theorem directive?_eq (c : Cursor) :
    directive? c =
      if (name c.skip).1 = "" ∨ !atGap (name c.skip).2.rest then none
      else (directiveToken? (name c.skip).1 (name c.skip).2).bind fun x =>
        if atBreak (x.2.lineEnd isSpace).rest then some (x.1, (x.2.lineEnd isSpace).skipBreak) else none := by
  unfold directive? directiveToken?
  generalize name c.skip = named
  obtain ⟨n, d⟩ := named
  refine ite_congr rfl (fun _ => rfl) fun _ => ?_
  dsimp only
  split
  · cases versionPart? (d.skipWhile isSpace) with
    | none => rfl
    | some x =>
        simp only [Option.bind_eq_bind, Option.bind_some]
        split
        · cases versionPart? x.2.skip <;> rfl
        · rfl
  · split
    · cases handle? true (d.skipWhile isSpace) with
      | none => rfl
      | some x =>
          simp only [Option.bind_eq_bind, Option.bind_some]
          split
          · rfl
          · cases tagText? true [] (x.2.skipWhile isSpace) with
            | none => rfl
            | some y =>
                simp only [Option.bind_some]
                split <;> rfl
    · rfl

theorem rest_directiveToken? {n : String} {c d : Cursor} {t : Token}
    (read : directiveToken? n c = some (t, d)) : t.isScalar = false ∧ d.rest <:+ c.rest := by
  have start := c.rest_skipWhile isSpace
  unfold directiveToken? at read
  split at read
  · obtain ⟨⟨major, e⟩, first, read⟩ := Option.bind_eq_some_iff.mp read
    obtain ⟨-, read⟩ := Option.ite_none_right_eq_some.mp read
    obtain ⟨⟨minor, f⟩, second, same⟩ := Option.map_eq_some_iff.mp read
    cases same
    exact ⟨rfl, (rest_versionPart? second).trans (e.rest_skip.trans ((rest_versionPart? first).trans start))⟩
  · obtain ⟨-, read⟩ := Option.ite_none_right_eq_some.mp read
    obtain ⟨⟨h, e⟩, handled, read⟩ := Option.bind_eq_some_iff.mp read
    obtain ⟨-, read⟩ := Option.ite_none_left_eq_some.mp read
    obtain ⟨⟨text, f⟩, written, read⟩ := Option.bind_eq_some_iff.mp read
    obtain ⟨-, read⟩ := Option.ite_none_right_eq_some.mp read
    cases read
    have handle := (behind_handle? handled).trans ((Cursor.rest_skip _).trans start)
    exact ⟨rfl, (rest_tagText? written).trans ((Cursor.rest_skipWhile _ _).trans handle)⟩

theorem behind_directive? {c d : Cursor} {t : Token} (read : directive? c = some (t, d)) :
    t.isScalar = false ∧ d.rest <:+ c.skip.rest := by
  rw [directive?_eq] at read
  obtain ⟨-, read⟩ := Option.ite_none_left_eq_some.mp read
  obtain ⟨⟨t, e⟩, token, read⟩ := Option.bind_eq_some_iff.mp read
  obtain ⟨-, read⟩ := Option.ite_none_right_eq_some.mp read
  cases read
  obtain ⟨silent, behind⟩ := rest_directiveToken? token
  exact ⟨silent, (Cursor.rest_skipBreak _).trans ((e.rest_lineEnd isSpace).trans
    (behind.trans (rest_name c.skip)))⟩

theorem yields_directive? {c d : Cursor} {t : Token} (read : directive? c = some (t, d)) : Yields c t d :=
  yields_silent (behind_directive? read).1 ((behind_directive? read).2.trans c.rest_skip)

/-! ## One token at a time -/

theorem leads_openFlow? {l l' : Lexer} {t : Token} (silent : t.isScalar = false)
    (h : l.openFlow? t = some l') : Leads l l' := by
  obtain ⟨noted, note, h⟩ := Option.bind_eq_some_iff.mp h
  cases h
  have opened : Leads noted { noted with keys := none :: noted.keys, keyAllowed := true } :=
    leads_of_same rfl rfl
  exact (noteKey?_same note).2.trans (opened.trans (leads_mark _ silent))

theorem leads_closeFlow? {l l' : Lexer} {t : Token} (silent : t.isScalar = false)
    (h : l.closeFlow? t = some l') : Leads l l' := by
  obtain ⟨dropped, drop, h⟩ := Option.bind_eq_some_iff.mp h
  cases h
  refine (leads_dropKey? drop).trans (Leads.trans ?_ (leads_mark _ silent))
  exact leads_of_same rfl rfl

theorem leads_documentMark? {l l' : Lexer} {t : Token} (silent : t.isScalar = false)
    (h : l.documentMark? t = some l') : Leads l l' := by
  obtain ⟨dropped, drop, h⟩ := Option.bind_eq_some_iff.mp h
  cases h
  refine ((leads_unrollTo l (-1)).trans (leads_dropKey? drop)).trans
    (leads_yields dropped false (yields_silent silent ?_))
  exact Cursor.rest_skipMany _ _

/-- A dash or a question mark that begins an entry of a block. -/
theorem leads_indicator {l dropped : Lexer} {opening t : Token} (b : Bool)
    (opens : opening.isScalar = false) (silent : t.isScalar = false)
    (drop : (l.rollHere opening).dropKey? = some dropped) :
    Leads l ((dropped.allowKey b).mark t) :=
  ((leads_roll l _ _ opens).trans (leads_dropKey? drop)).trans
    ((leads_allowKey dropped b).trans (leads_mark _ silent))

theorem leads_blockEntry? {l l' : Lexer} (h : l.blockEntry? = some l') : Leads l l' := by
  obtain ⟨-, h⟩ := Option.ite_none_left_eq_some.mp h
  obtain ⟨dropped, drop, h⟩ := Option.bind_eq_some_iff.mp h
  cases h
  exact leads_indicator _ rfl rfl drop

theorem leads_key? {l l' : Lexer} (h : l.key? = some l') : Leads l l' := by
  obtain ⟨-, h⟩ := Option.ite_none_left_eq_some.mp h
  obtain ⟨dropped, drop, h⟩ := Option.bind_eq_some_iff.mp h
  cases h
  exact leads_indicator _ rfl rfl drop

theorem leads_value? {l l' : Lexer} (h : l.value? = some l') : Leads l l' := by
  have unkeyed : ∀ k : Lexer, Leads l k →
      (if !k.inFlow && !k.keyAllowed then none
        else some (((k.rollHere .blockMappingStart).allowKey (!k.inFlow)).mark .value)) = some l' →
      Leads l l' := by
    intro k before h
    obtain ⟨-, h⟩ := Option.ite_none_left_eq_some.mp h
    cases h
    exact before.trans ((leads_roll k _ _ (t := .blockMappingStart) rfl).trans
      ((leads_allowKey _ _).trans (leads_mark _ (t := .value) rfl)))
  unfold value? at h
  dsimp only at h
  split at h
  · next k _ _ =>
      split at h
      · cases h
        exact ((leads_insertAt l k.position (t := .key) rfl).trans
          (leads_roll _ k.column k.position (t := .blockMappingStart) rfl)).trans
          (((leads_setKey _ none).trans (leads_allowKey _ false)).trans
            (leads_mark _ (t := .value) rfl))
      · split at h
        · cases h
        · exact unkeyed _ (leads_setKey l none) h
  · exact unkeyed l (leads_refl l) h

theorem leads_keyToken? {l l' : Lexer} {read : Cursor → Option (Token × Cursor)}
    (yields : ∀ t c, read l.cursor = some (t, c) → Yields l.cursor t c)
    (h : l.keyToken? read = some l') : Leads l l' := by
  obtain ⟨noted, note, h⟩ := Option.bind_eq_some_iff.mp h
  obtain ⟨⟨t, c⟩, scanned, h⟩ := Option.bind_eq_some_iff.mp h
  cases h
  obtain ⟨cursor, leads⟩ := noteKey?_same note
  rw [cursor] at scanned
  exact leads.trans (leads_yields noted false (cursor ▸ yields t c scanned))

theorem yields_quotedToken? {single : Bool} {c d : Cursor} {t : Token}
    (opens : c.rest.head? = some (if single then '\'' else '"'))
    (read : quotedToken? single c = some (t, d)) : Yields c t d := by
  obtain ⟨⟨text, e⟩, scanned, same⟩ := Option.map_eq_some_iff.mp read
  cases same
  obtain ⟨behind, spelled⟩ := spelled_quoted? _ _ _ _ _ opens scanned
  refine ⟨behind, fun plain text' same => ?_⟩
  cases same
  rw [String.toList_ofList]
  exact spelled

theorem leads_blockToken? {l l' : Lexer} {literal : Bool} (h : l.blockToken? literal = some l') :
    Leads l l' := by
  obtain ⟨dropped, drop, h⟩ := Option.bind_eq_some_iff.mp h
  obtain ⟨⟨text, c⟩, scanned, h⟩ := Option.bind_eq_some_iff.mp h
  cases h
  refine (leads_dropKey? drop).trans (leads_yields dropped true ⟨?_, fun plain text' same => ?_⟩)
  · exact (block?_spelling _ _ _ _ _ scanned).1.trans dropped.cursor.rest_skip
  · cases same
    rw [String.toList_ofList]
    exact (spelled_block? _ _ _ _ _ scanned).widen dropped.cursor.rest_skip

theorem leads_plainToken? {l l' : Lexer} (h : l.plainToken? = some l') : Leads l l' := by
  obtain ⟨noted, note, h⟩ := Option.bind_eq_some_iff.mp h
  obtain ⟨s, scanned, h⟩ := Option.bind_eq_some_iff.mp h
  cases h
  refine (noteKey?_same note).2.trans
    (leads_yields noted s.afterBreak ⟨rest_plain? _ _ _ _ _ _ scanned, fun plain text same => ?_⟩)
  cases same
  rw [String.toList_ofList]
  exact spelled_plain? _ _ _ _ _ scanned

theorem leads_name {l l' : Lexer} (token : String → Token) (silent : ∀ n, (token n).isScalar = false)
    (h : l.keyToken? (fun c => (anchorName? c).map fun (n, c) => (token n, c)) = some l') :
    Leads l l' := by
  refine leads_keyToken? (fun t c read => ?_) h
  obtain ⟨⟨n, d⟩, named, same⟩ := Option.map_eq_some_iff.mp read
  cases same
  exact yields_silent (silent n) (rest_anchorName? named)

theorem leads_quote {l l' : Lexer} (single : Bool) {ch : Char} {r : List Char}
    (here : l.cursor.rest = ch :: r) (quote : ch = if single then '\'' else '"')
    (h : l.keyToken? (quotedToken? single) = some l') : Leads l l' := by
  refine leads_keyToken? (fun _ _ => yields_quotedToken? ?_) h
  rw [here, quote, List.head?_cons]

/-- The branches are those of `next?`, in its order. -/
theorem leads_next? {l l' : Lexer} (h : l.next? = some l') : Leads l l' := by
  unfold next? at h
  dsimp only at h
  split at h
  · cases h
  · next ch r here =>
      refine of_ite (fun _ h => ?_) (fun _ => ?_) h
      · obtain ⟨dropped, drop, h⟩ := Option.bind_eq_some_iff.mp h
        obtain ⟨⟨t, c⟩, directive, h⟩ := Option.bind_eq_some_iff.mp h
        cases h
        exact ((leads_unrollTo l (-1)).trans (leads_dropKey? drop)).trans
          (leads_yields dropped false (yields_directive? directive))
      refine of_ite (fun _ => leads_documentMark? (by split <;> rfl)) (fun _ => ?_)
      refine of_ite (fun _ => leads_openFlow? rfl) (fun _ => ?_)
      refine of_ite (fun _ => leads_openFlow? rfl) (fun _ => ?_)
      refine of_ite (fun _ => leads_closeFlow? rfl) (fun _ => ?_)
      refine of_ite (fun _ => leads_closeFlow? rfl) (fun _ => ?_)
      refine of_ite (fun _ h => ?_) (fun _ => ?_)
      · obtain ⟨dropped, drop, same⟩ := Option.map_eq_some_iff.mp h
        cases same
        exact (leads_dropKey? drop).trans
          ((leads_allowKey dropped true).trans (leads_mark _ (t := .flowEntry) rfl))
      refine of_ite (fun _ => leads_blockEntry?) (fun _ => ?_)
      refine of_ite (fun _ => leads_key?) (fun _ => ?_)
      refine of_ite (fun _ => leads_value?) (fun _ => ?_)
      refine of_ite (fun _ => leads_name .alias fun _ => rfl) (fun _ => ?_)
      refine of_ite (fun _ => leads_name .anchor fun _ => rfl) (fun _ => ?_)
      refine of_ite (fun _ => leads_keyToken? fun _ _ => yields_tag?) (fun _ => ?_)
      refine of_ite (fun _ => leads_blockToken?) (fun _ => ?_)
      refine of_ite (fun _ => leads_blockToken?) (fun _ => ?_)
      refine of_ite (fun quote => leads_quote true here quote) (fun _ => ?_)
      refine of_ite (fun quote => leads_quote false here quote) (fun _ => ?_)
      exact of_ite (fun _ => leads_plainToken?) (fun _ h => by cases h)

theorem leads_run? (fuel : Nat) : ∀ l l' : Lexer, run? fuel l = some l' → Leads l l' := by
  induction fuel with
  | zero =>
      intro l l' h
      cases h
  | succ fuel ih =>
      intro l l' h
      unfold run? at h
      dsimp only at h
      have start := (leads_toToken (l.cursor.rest.length + 1) l).trans
        (leads_unrollTo _ (toToken (l.cursor.rest.length + 1) l).cursor.column)
      split at h
      · exact start.trans ((leads_unrollTo _ (-1)).trans (leads_dropKey? h))
      · obtain ⟨stepped, step, h⟩ := Option.bind_eq_some_iff.mp h
        exact start.trans ((leads_next? step).trans (ih stepped l' h))

end Lexer

/-- Every scalar among the tokens of a text is spelled in it. -/
theorem spelled_tokens? {source : String} {ts : List Token} (h : tokens? source = some ts)
    {plain : Bool} {text : String} (member : .scalar plain text ∈ ts) :
    Spelled source.toList text.toList := by
  obtain ⟨-, h⟩ := Option.ite_none_right_eq_some.mp h
  obtain ⟨l, run, same⟩ := Option.map_eq_some_iff.mp h
  rw [← same, List.mem_reverse] at member
  obtain before | spelled := (Lexer.leads_run? _ _ _ run).spelled plain text member
  · exact absurd before List.not_mem_nil
  · exact spelled

end HeatStack.Yaml
