import HeatStack.Proofs.Compilation
import HeatStack.Proofs.TrailingTokens
import HeatStack.Proofs.WrittenEnd

/-! # Tags that are no text

Tags that are a collection, a number or a boolean are kept as the text that is written for them, with the
blanks at its end cut off.  That text means the same as the whole one, unless the value ends in a text that
itself ends in a blank and nothing is written behind it (`tags_read_back`).  Otherwise only a line feed is
cut off, which a block scalar at the end could miss; but what such a scalar would read is never what the
value ends in (`not_keepsBreak`). -/
set_option autoImplicit false
namespace HeatStack.Yaml
open HeatStack.Text

/-! ## A block scalar at the end -/

/-- What begins at a break lies behind a stretch without breaks. -/
theorem suffix_behind {front lines rest : List Char} (inline : ∀ ch ∈ front, isBreak ch = false)
    (at_break : atBreak lines = true) (behind : lines <:+ front ++ rest) : lines <:+ rest := by
  induction front with
  | nil => exact behind
  | cons ch front ih =>
      obtain ⟨first, others⟩ := List.forall_mem_cons.mp inline
      obtain same | inner := List.suffix_cons_iff.mp behind
      · rw [same] at at_break
        rw [show isBreak ch = true from at_break] at first
        cases first
      · exact ih others inner

theorem style_of_clean {cs : List Char} (clean : Clean cs) : textStyle (String.ofList (cs ++ ['\n'])) = .literal := by
  have wanted : wantedStyle (String.ofList (cs ++ ['\n'])) = .literal := if_pos (by simp)
  simp only [textStyle, wanted, String.toList_ofList, block_of_clean clean, if_true]

/-- The text of a value that does not end in a blank has no block scalar that goes on to its end and lacks the
line feed that the value has there. -/
theorem not_keepsBreak {v : Value} {w : Writer} {text : List Char}
    (written : printNode ⟨-1, false⟩ none .start v = some w) (solid : v.endsInBlank = false)
    (last : v.LastText (String.ofList (text ++ ['\n']))) : ¬ Lexer.KeepsBreak w.shown text := by
  intro keeps
  obtain ⟨mark, c, d, literal, parent, isMark, behind, scan, ended⟩ := keeps
  obtain ⟨header, lines, rest, inline, at_break, count, clean⟩ := block?_region scan ended
  obtain ⟨before, word, nulls, shown, spelled, further, alone⟩ := written_lastText (by simp) last written
  rw [rest] at behind
  have inside : word ++ nulls <:+ w.shown := ⟨before, shown.symm⟩
  have counted : ∀ p, Counts p → (String.ofList (text ++ ['\n'])).toList.countP p = lines.countP p := by
    intro p counts
    rw [String.toList_ofList, List.countP_append, count p counts, List.countP_cons_of_neg]
    · rfl
    · rw [counts.break_ '\n' rfl]
      exact Bool.false_ne_true
  cases spelled with
  | @literal body style same =>
      have some : nulls ≠ [] := by
        intro none
        rw [Value.endsInBlank, alone none, Option.any_some, endsItself, style, String.toList_ofList,
          List.getLast?_concat] at solid
        cases solid
      obtain within | whole := List.suffix_or_suffix_of_suffix behind inside
      · -- the scalar begins within the block, and its mark would not be counted
        have marks := within.sublist.countP_le (p := isBlockMark)
        have first : isBlockMark mark = true := by obtain rfl | rfl := isMark <;> rfl
        have break_ : isBlockMark '\n' = false := rfl
        have inner := same _ counts_blockMark
        have outer := counted _ counts_blockMark
        rw [List.countP_cons_of_pos first, List.countP_append, List.cons_append, List.countP_cons, break_,
          List.countP_append, further.blockMarks, inner, outer] at marks
        simp only [Bool.false_eq_true, if_false] at marks
        omega
      · -- the lines hold the whole block, and the nulls behind it
        have same_line : ∀ ch ∈ mark :: header, isBreak ch = false :=
          List.forall_mem_cons.mpr ⟨by obtain rfl | rfl := isMark <;> rfl, inline⟩
        have behind := suffix_behind same_line rfl whole
        have seen := behind.sublist.countP_le (p := isVisible)
        have inner := same _ counts_visible
        have outer := counted _ counts_visible
        have nulls := further.visible some
        rw [List.cons_append, List.countP_cons, List.countP_append, inner, outer] at seen
        omega
  | double style unbroken more =>
      have lines_behind : lines <:+ w.shown := (List.suffix_append (mark :: header) lines).trans behind
      obtain within | whole := List.suffix_or_suffix_of_suffix lines_behind inside
      · -- the lines are nulls only, and such a text is written as a block
        have behind := suffix_behind unbroken at_break within
        rw [style_of_clean (clean (further.clean.suffix behind))] at style
        cases style
      · have seen := whole.sublist.countP_le (p := isVisible)
        have outer := counted _ counts_visible
        rw [List.countP_append] at seen
        omega

/-! ## The text without the blanks at its end -/

theorem Value.parse?_of_tokens {s t : String} (same : tokens? s = tokens? t) : Value.parse? s = Value.parse? t := by
  unfold Value.parse? Document.parse?
  rw [same]

theorem trimRight_concat {cs : List Char} {ch : Char} (last : cs.getLast? = some ch) (solid : isBlank ch = false) :
    trimRight (cs ++ ['\n']) = cs := by
  obtain ⟨front, rfl⟩ := List.getLast?_eq_some_iff.mp last
  have feed : isBlank '\n' = true := rfl
  rw [trimRight, List.reverse_append, List.reverse_append, List.reverse_singleton, List.reverse_singleton,
    List.singleton_append, List.dropWhile_cons, if_pos feed, List.singleton_append, List.dropWhile_cons, solid]
  simp

/-- The text of a value is what is written for it, without the blanks at its end. -/
theorem Value.print?_eq (v : Value) : v.print? = v.emitted?.map fun raw => String.ofList (trimRight raw.toList) := by
  unfold Value.print? Value.emitted?
  cases printNode ⟨-1, false⟩ none .start v with
  | none => rfl
  | some w =>
      obtain ⟨gap, ⟨feed, k, feeds, rfl⟩, shown⟩ := w.shown_indentTo 0
      have blank : ∀ ch ∈ (feed ++ List.replicate k ' ').reverse, isBlank ch = true := by
        intro ch member
        obtain inside | inside := List.mem_append.mp (List.mem_reverse.mp member)
        · obtain rfl | rfl := feeds
          · cases inside
          · cases List.mem_singleton.mp inside
            rfl
        · rw [List.eq_of_mem_replicate inside]
          rfl
      have written : (w.indentTo 0).written = (feed ++ List.replicate k ' ').reverse ++ w.written := by
        rw [← List.reverse_reverse (w.indentTo 0).written]
        change (w.indentTo 0).shown.reverse = _
        rw [shown, List.reverse_append, Writer.shown, List.reverse_reverse]
      rw [Option.map_some, Option.map_some, Option.map_some, String.toList_ofList, trimRight, List.reverse_reverse,
        written, List.dropWhile_append_of_pos blank]

theorem isBlank_of_gap {ch : Char} (gap : isSpaceOrBreak ch = true) : isBlank ch = true := by
  obtain space | break_ := Bool.or_eq_true_iff.mp gap
  · simp only [isSpace, Bool.or_eq_true, beq_iff_eq] at space
    obtain rfl | rfl := space <;> rfl
  · exact Writer.isBlank_of_isBreak break_

/-- Where a value does not end in a blank, its text means the same without the line feed behind it. -/
theorem Value.parse?_trimmed {v : Value} {raw : String} (emitted : v.emitted? = some raw)
    (solid : v.endsInBlank = false) (lossless : Value.parse? raw = some v) :
    Value.parse? (String.ofList (trimRight raw.toList)) = some v := by
  obtain ⟨w, written, same⟩ := Option.map_eq_some_iff.mp emitted
  have ended := ended_printNode v _ _ _ _ solid written
  obtain ⟨ch, last, visible⟩ := ended.last
  have shown : (w.indentTo 0).written.reverse = w.shown ++ ['\n'] := by
    unfold Writer.indentTo
    rw [ended.fresh]
    exact w.shown_putBreak '\n'
  rw [shown] at same
  subst same
  rw [String.toList_ofList, trimRight_concat last visible]
  have settled : Settled (String.ofList w.shown).toList := by
    intro other final
    rw [String.toList_ofList, last] at final
    cases final
    exact Bool.eq_false_iff.mpr fun gap => Bool.eq_false_iff.mp visible (isBlank_of_gap gap)
  have feed : String.ofList (w.shown ++ ['\n']) = String.ofList w.shown ++ "\n" := String.ofList_append
  have tokens := tokens?_broken settled
  rw [← feed] at tokens
  cases read : tokens? (String.ofList (w.shown ++ ['\n'])) with
  | none =>
      obtain ⟨d, document, -⟩ := Option.bind_eq_some_iff.mp lossless
      obtain ⟨ts, tokens, -⟩ := Option.bind_eq_some_iff.mp document
      rw [read] at tokens
      cases tokens
  | some ts' =>
      cases first : tokens? (String.ofList w.shown) with
      | none =>
          rw [first, read] at tokens
          cases tokens
      | some ts =>
          rw [first, read] at tokens
          cases tokens with
          | some same =>
              obtain rfl | ⟨before, text, ends, keeps, closing, -, rfl⟩ := same
              · rw [Value.parse?_of_tokens (first.trans read.symm)]
                exact lossless
              · rw [String.toList_ofList] at keeps
                have broken : EndsInFeed (String.ofList (text ++ ['\n'])).toList := by
                  rw [String.toList_ofList]
                  exact List.getLast?_concat
                have final := Value.lastText_parse? broken ⟨before, ends, closing, rfl⟩ read lossless
                exact absurd keeps (not_keepsBreak written solid final)

end HeatStack.Yaml

namespace HeatStack.Template
open HeatStack.Text HeatStack.Yaml

/-- The document in the text has tags, and this is what they mean. -/
def HasTags (source : String) (v : Value) : Prop := ∃ d, Document.ofText source = .ok d ∧ d.tags = some v

theorem tags_bundle (d : Document) (name source : String) : (d.bundle name source).tags = d.tags.bind tagText? := rfl

/-- Tags that are no text are kept as what is written for them, without the blanks at its end. -/
theorem tagText?_structured {v : Value} {raw : String} (structured : v ≠ .null ∧ ∀ s, v ≠ .string s)
    (emitted : v.emitted? = some raw) : tagText? v = some (String.ofList (trimRight raw.toList)) := by
  have other : tagText? v = v.print?.map fun s => String.ofList (trimRight s.toList) := by
    cases v with
    | null => exact absurd rfl structured.1
    | string s => exact absurd rfl (structured.2 s)
    | _ => rfl
  rw [other, Value.print?_eq, emitted, Option.map_some, Option.map_some, String.toList_ofList]
  exact congrArg (fun cs => some (String.ofList cs)) (List.rdropWhile_idempotent isBlank raw.toList)

theorem tags_read_back {name source raw : String} {b : Bundle} {v : Value} (compiled : compile name source = .ok b)
    (declared : HasTags source v) (structured : v ≠ .null ∧ ∀ s, v ≠ .string s) (emitted : v.emitted? = some raw)
    (lossless : Value.parse? raw = some v) (solid : v.endsInBlank = false) :
    b.tags = (if (Sections.mentioned source).any then some (String.ofList (trimRight raw.toList)) else none) ∧
      Value.parse? (String.ofList (trimRight raw.toList)) = some v := by
  refine ⟨?_, Value.parse?_trimmed emitted solid lossless⟩
  obtain ⟨d, document, tags⟩ := declared
  obtain ⟨unmentioned, rfl⟩ | ⟨mentioned, d', document', rfl⟩ := compile_eq_ok name source b compiled
  · rw [unmentioned]
    rfl
  · cases document.symm.trans document'
    rw [tags_bundle, mentioned, tags]
    exact tagText?_structured structured emitted

/-- Tags that end in a text of two lines. -/
def blockTags : Value := .sequence [.string "a", .mapping [(.string "b", .string "c\nd")]]

def blockNode {ref : Type} : Node ref :=
  .sequence .none [.scalar .none true "a", .mapping .none [(.scalar .none true "b", .scalar .none false "c\nd")]]

def blockSource : String := "tags: [a, \x7bb: \"c\\nd\"\x7d]\n"

theorem hasTags_blockSource : HasTags blockSource blockTags := by
  have tokens : tokens? blockSource = some [.blockMappingStart, .key, .scalar true "tags", .value,
      .flowSequenceStart, .scalar true "a", .flowEntry, .flowMappingStart, .key, .scalar true "b", .value,
      .scalar false "c\nd", .flowMappingEnd, .flowSequenceEnd, .blockEnd] := by decide +kernel
  exact ⟨⟨none, none, some blockTags⟩, ofText_of_stages (.mapping .none [(.scalar .none true "tags", blockNode)])
    (.mapping .none [(.scalar .none true "tags", blockNode)]) ⟨[], [], 10⟩ [(.string "tags", blockTags)]
    tokens (by cbv) (by cbv) (by cbv) rfl, rfl⟩

theorem parse?_block : Value.parse? "- a\n- b: |-\n    c\n    d\n" = some blockTags := by
  have tokens : tokens? "- a\n- b: |-\n    c\n    d\n" = some [.blockSequenceStart, .blockEntry,
      .scalar true "a", .blockEntry, .blockMappingStart, .key, .scalar true "b", .value, .scalar false "c\nd",
      .blockEnd, .blockEnd] := by decide +kernel
  exact parse?_of_stages blockNode blockNode ⟨[], [], 7⟩ tokens (by cbv) (by cbv) (by cbv)

theorem tags_read_back_block : ∃ b, compile "t" blockSource = .ok b ∧
    b.tags = some "- a\n- b: |-\n    c\n    d" ∧
    Value.parse? "- a\n- b: |-\n    c\n    d" = some blockTags := by
  obtain ⟨d, document, tags⟩ := hasTags_blockSource
  have mentioned : (Sections.mentioned blockSource).any = true := by decide +kernel
  have compiled := compile_of_mentioned mentioned document "t"
  have emitted : blockTags.emitted? = some "- a\n- b: |-\n    c\n    d\n" := by cbv
  have structured : blockTags ≠ .null ∧ ∀ s, blockTags ≠ .string s := by simp [blockTags]
  obtain ⟨kept, same⟩ := tags_read_back compiled ⟨d, document, tags⟩ structured emitted parse?_block rfl
  rw [mentioned] at kept
  exact ⟨_, compiled, kept, same⟩

/-! ## A line feed that is lost -/

/-- Tags that end in a text of one line and its line feed. -/
def brokenTags : Value := .sequence [.string "a\n"]

def brokenSource : String := "tags: [\"a\\n\"]\n"

/-- The line feed of the literal block is cut off, and the block is read without it. -/
theorem tags_lose_break : ∃ b, compile "t" brokenSource = .ok b ∧ HasTags brokenSource brokenTags ∧
    brokenTags.emitted? = some "- |\n  a\n" ∧ Value.parse? "- |\n  a\n" = some brokenTags ∧
    b.tags = some "- |\n  a" ∧ Value.parse? "- |\n  a" = some (.sequence [.string "a"]) ∧
    Value.parse? "- |\n  a" ≠ some brokenTags := by
  have document : Document.ofText brokenSource = .ok ⟨none, none, some brokenTags⟩ := by
    have tokens : tokens? brokenSource = some [.blockMappingStart, .key, .scalar true "tags", .value,
        .flowSequenceStart, .scalar false "a\n", .flowSequenceEnd, .blockEnd] := by decide +kernel
    exact ofText_of_stages
      (.mapping .none [(.scalar .none true "tags", .sequence .none [.scalar .none false "a\n"])])
      (.mapping .none [(.scalar .none true "tags", .sequence .none [.scalar .none false "a\n"])])
      ⟨[], [], 6⟩ [(.string "tags", brokenTags)] tokens (by cbv) (by cbv) (by cbv) rfl
  have mentioned : (Sections.mentioned brokenSource).any = true := by decide +kernel
  have whole : Value.parse? "- |\n  a\n" = some brokenTags := by
    have tokens : tokens? "- |\n  a\n" = some [.blockSequenceStart, .blockEntry, .scalar false "a\n",
        .blockEnd] := by decide +kernel
    exact parse?_of_stages (.sequence .none [.scalar .none false "a\n"])
      (.sequence .none [.scalar .none false "a\n"]) ⟨[], [], 3⟩ tokens (by cbv) (by cbv) (by cbv)
  have trimmed : Value.parse? "- |\n  a" = some (.sequence [.string "a"]) := by
    have tokens : tokens? "- |\n  a" = some [.blockSequenceStart, .blockEntry, .scalar false "a",
        .blockEnd] := by decide +kernel
    exact parse?_of_stages (.sequence .none [.scalar .none false "a"])
      (.sequence .none [.scalar .none false "a"]) ⟨[], [], 3⟩ tokens (by cbv) (by cbv) (by cbv)
  have emitted : brokenTags.emitted? = some "- |\n  a\n" := by cbv
  have structured : brokenTags ≠ .null ∧ ∀ s, brokenTags ≠ .string s := by simp [brokenTags]
  have kept := (tags_bundle ⟨none, none, some brokenTags⟩ "t" brokenSource).trans
    ((Option.bind_some ..).trans (tagText?_structured structured emitted))
  refine ⟨_, compile_of_mentioned mentioned document "t", ⟨_, document, rfl⟩, emitted, whole, kept, trimmed, ?_⟩
  rw [trimmed]
  simp [brokenTags]

end HeatStack.Template
