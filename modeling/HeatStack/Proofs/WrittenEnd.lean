import HeatStack.Proofs.BlockText
import HeatStack.Proofs.LastScalar
import HeatStack.Proofs.StyledNumbers

/-! # How the text of a value ends

The last scalar of a value is the last thing written.  A text that is written plain or as a literal
block ends with its own last character; every other scalar, and an empty collection, ends with a
character that is not blank.  So the text of a value ends in a blank only with such a text
(`Value.endsInBlank`), and otherwise nothing but the line feed behind it is cut off. -/
set_option autoImplicit false
namespace HeatStack.Yaml
open HeatStack.Number HeatStack.Text

/-! ## The last scalar of a value -/

mutual
/-- The text that is written last, where a text is. -/
def Value.lastText? : Value → Option String
  | .string s => some s
  | .tagged _ v => v.lastText?
  | .sequence items => Value.lastItem? items
  | .mapping entries => Value.lastEntry? entries
  | _ => none

def Value.lastItem? : List Value → Option String
  | [] => none
  | [v] => v.lastText?
  | _ :: rest => Value.lastItem? rest

def Value.lastEntry? : List (Value × Value) → Option String
  | [] => none
  | [(_, v)] => v.lastText?
  | _ :: rest => Value.lastEntry? rest
end

/-- Whether the characters of a text end what is written for it: nothing comes behind them where it is plain
or a literal block. -/
def endsItself (s : String) : Bool := textStyle s = .plain || textStyle s = .literal

/-- A value whose text ends in a blank that belongs to it. -/
def Value.endsInBlank (v : Value) : Bool :=
  v.lastText?.any fun s => endsItself s && s.toList.getLast?.any isBlank

/-- The text of a value with the line feed that ends it. -/
def Value.emitted? (v : Value) : Option String :=
  (printNode ⟨-1, false⟩ none .start v).map fun w => String.ofList (w.indentTo 0).written.reverse

theorem Value.lastItem?_append (front : List Value) (v : Value) : Value.lastItem? (front ++ [v]) = v.lastText? := by
  induction front with
  | nil => rw [List.nil_append, Value.lastItem?]
  | cons w front ih =>
      rw [List.cons_append, Value.lastItem?, ih]
      simp

theorem Value.lastEntry?_append (front : List (Value × Value)) (k v : Value) :
    Value.lastEntry? (front ++ [(k, v)]) = v.lastText? := by
  induction front with
  | nil => rw [List.nil_append, Value.lastEntry?]
  | cons e front ih =>
      rw [List.cons_append, Value.lastEntry?, ih]
      simp

/-! ## What the steps of writing put down -/

namespace Writer
variable (w : Writer)

/-- The text so far, the first character first. -/
def shown : List Char := w.written.reverse

theorem shown_put (c : Char) : (w.put c).shown = w.shown ++ [c] := List.reverse_cons

theorem shown_putBreak (c : Char) : (w.putBreak c).shown = w.shown ++ [c] := List.reverse_cons

theorem shown_puts (cs : List Char) : (w.puts cs).shown = w.shown ++ cs := by
  induction cs generalizing w with
  | nil => exact (List.append_nil _).symm
  | cons c cs ih =>
      rw [puts, List.foldl_cons]
      exact (ih (w.put c)).trans (by rw [shown_put, List.append_assoc, List.singleton_append])

/-- Blanks after at most one line feed. -/
def Indentation (cs : List Char) : Prop := ∃ feed k, (feed = [] ∨ feed = ['\n']) ∧ cs = feed ++ List.replicate k ' '

theorem shown_indentTo (indent : Nat) : ∃ gap, Indentation gap ∧ (w.indentTo indent).shown = w.shown ++ gap := by
  unfold indentTo
  dsimp only
  split
  · exact ⟨_, ⟨['\n'], _, .inr rfl, rfl⟩, (shown_puts _ _).trans (by rw [shown_putBreak, List.append_assoc])⟩
  · exact ⟨_, ⟨[], _, .inl rfl, rfl⟩, (shown_puts _ _).trans (by rw [List.nil_append])⟩

theorem shown_mark (cs : List Char) (apart spaced block : Bool) :
    (w.mark cs apart spaced block).shown = w.shown ++ (if apart && !w.spaced then [' '] else []) ++ cs := by
  unfold mark
  dsimp only
  refine (shown_puts _ _).trans (congrArg (· ++ cs) ?_)
  split
  · exact shown_put w ' '
  · exact (List.append_nil _).symm

theorem shown_word (cs : List Char) : ∃ gap, (gap = [] ∨ gap = [' ']) ∧ (w.word cs).shown = w.shown ++ gap ++ cs := by
  unfold word
  dsimp only
  split
  · exact ⟨[], .inl rfl, (shown_puts _ _).trans (by rw [List.append_nil])⟩
  · exact ⟨[' '], .inr rfl, (shown_puts _ _).trans (by rw [shown_put])⟩

/-- A null behind a colon that begins a line. -/
theorem shown_null (spaced : w.spaced = true) :
    ((w.mark [':'] true false true).word "null".toList).shown = w.shown ++ [':', ' ', 'n', 'u', 'l', 'l'] := by
  have colon : (w.mark [':'] true false true).shown = w.shown ++ [':'] := by
    rw [shown_mark, spaced, Bool.not_true, Bool.and_false, if_neg Bool.false_ne_true, List.append_nil]
  have word : (w.mark [':'] true false true).word "null".toList =
      { ((w.mark [':'] true false true).put ' ').puts "null".toList with spaced := false, fresh := false } := rfl
  rw [word]
  refine (shown_puts _ _).trans ?_
  rw [shown_put, colon, List.append_assoc, List.append_assoc]
  rfl

/-! ## Texts that end in something to see -/

/-- The last character is on the line, and no blank. -/
structure Ended : Prop where
  fresh : w.fresh = false
  last : ∃ ch, w.shown.getLast? = some ch ∧ isBlank ch = false

variable {w}

theorem ended_word {cs : List Char} {c : Char} (last : cs.getLast? = some c) (solid : isBlank c = false) :
    (w.word cs).Ended where
  fresh := rfl
  last := by
    obtain ⟨gap, -, shown⟩ := w.shown_word cs
    refine ⟨c, ?_, solid⟩
    rw [shown, List.getLast?_append, last]
    rfl

theorem ended_mark {cs : List Char} {c : Char} {apart spaced : Bool} (last : cs.getLast? = some c)
    (solid : isBlank c = false) : (w.mark cs apart spaced false).Ended where
  fresh := Bool.and_false _
  last := by
    refine ⟨c, ?_, solid⟩
    rw [shown_mark, List.getLast?_append, last]
    rfl

theorem isBlank_of_isBreak {ch : Char} (break_ : isBreak ch = true) : isBlank ch = true := by
  simp only [isBreak, Bool.or_eq_true, beq_iff_eq] at break_
  obtain (((rfl | rfl) | rfl) | rfl) | rfl := break_ <;> decide

theorem ended_lines {indent : Nat} {ch : Char} (solid : isBlank ch = false) : ∀ (cs : List Char) (broken : Bool)
    (w : Writer), cs.getLast? = some ch → (lines indent (fun c => [c]) broken cs w).1.Ended := by
  intro cs
  induction cs with
  | nil => nofun
  | cons c r ih =>
      intro broken w last
      rw [lines]
      cases r with
      | nil =>
          obtain rfl : c = ch := Option.some.inj last
          have inline : ¬ isBreak c = true := fun break_ => by
            rw [isBlank_of_isBreak break_] at solid
            cases solid
          rw [if_neg inline]
          refine ⟨rfl, c, ?_, solid⟩
          change ((if broken = true then w.indentTo indent else w).puts [c]).shown.getLast? = some c
          rw [shown_puts, List.getLast?_concat]
      | cons next r =>
          rw [List.getLast?_cons_cons] at last
          split
          · exact ih _ _ last
          · exact ih _ _ last

theorem getLast?_of_ne_empty {s : String} (some : s ≠ "") : ∃ ch, s.toList.getLast? = Option.some ch :=
  ⟨_, List.getLast?_eq_some_getLast fun none => some (String.toList_eq_nil_iff.mp none)⟩

theorem ended_text {indent : Nat} {s : String}
    (solid : (endsItself s && s.toList.getLast?.any isBlank) = false) : (w.text indent s).Ended := by
  have own : endsItself s = true → ∃ ch, s.toList.getLast? = some ch ∧ isBlank ch = false := by
    intro own
    have some : s ≠ "" := by
      rintro rfl
      revert own
      decide
    obtain ⟨ch, last⟩ := getLast?_of_ne_empty some
    rw [own, last] at solid
    exact ⟨ch, last, solid⟩
  unfold text
  dsimp only
  split
  · next style =>
      obtain ⟨ch, last, solid⟩ := own (by simp [endsItself, style])
      exact ended_word last solid
  · exact ended_mark rfl rfl
  · exact ended_word (c := '"') List.getLast?_concat rfl
  · next style =>
      obtain ⟨ch, last, solid⟩ := own (by simp [endsItself, style])
      exact ended_lines solid _ _ _ last

end Writer

/-! ## Values -/

theorem numericText_ends (n : Numeric) :
    ∃ ch, (numberStyle.numericText n).toList.getLast? = some ch ∧ isBlank ch = false := by
  have behind : ∀ sign cs : List Char, cs ≠ [] → (∀ c ∈ cs, isBlank c = false) →
      ∃ ch, (sign ++ cs).getLast? = some ch ∧ isBlank ch = false := by
    intro sign cs some plain
    refine ⟨cs.getLast some, ?_, plain _ (List.getLast_mem some)⟩
    rw [List.getLast?_append, List.getLast?_eq_some_getLast some]
    rfl
  cases n with
  | integer n =>
      obtain ⟨some, digits⟩ := Json.digits_toDigits n.natAbs
      rw [NumberStyle.numericText, toList_toString]
      exact behind _ _ some fun c member => isBlank_digit (digits c member)
  | binary x =>
      rw [NumberStyle.numericText]
      cases finite : x.isFinite with
      | true =>
          obtain ⟨c, cs, front, -⟩ := numberStyle.unsignedText_front (Shortest.decimal numberStyle.tie x)
          rw [numberStyle.toList_text finite]
          exact behind _ _ (by simp [front]) (numberStyle.unsignedText_no_blank _)
      | false =>
          -- a word stands for every number that is not finite
          unfold NumberStyle.text
          split
          · exact ⟨'n', rfl, rfl⟩
          · next number =>
              have infinite : x.isInfinite = true := by
                simp only [Binary64.isFinite, Binary64.isNaN, Binary64.isInfinite] at finite number ⊢
                simp_all
              rw [if_pos infinite]
              split <;> exact ⟨'f', rfl, rfl⟩

/-- Writes a key up to the colon behind it, on one line where it is simple. -/
def printKey (indent : Nat) (w : Writer) (k : Value) : Option Writer :=
  if isSimpleKey k then
    (printNode ⟨indent, true⟩ none (w.indentTo indent) k).map fun w => w.mark [':'] false false false
  else
    (printNode ⟨indent, true⟩ none ((w.indentTo indent).mark ['?'] true false true) k).map fun w =>
      (w.indentTo indent).mark [':'] true false true

theorem printEntries_cons (indent : Nat) (w : Writer) (k v : Value) (rest : List (Value × Value)) :
    printEntries indent w ((k, v) :: rest) = (printKey indent w k).bind fun w =>
      (printNode ⟨indent, true⟩ none w v).bind fun w => printEntries indent w rest := by
  rw [printEntries, printKey]
  split
  · cases printNode ⟨indent, true⟩ none (w.indentTo indent) k <;> rfl
  · cases printNode ⟨indent, true⟩ none ((w.indentTo indent).mark ['?'] true false true) k <;> rfl

mutual
theorem ended_printNode : ∀ (v : Value) (p : Place) (tag : Option String) (w w' : Writer),
    v.endsInBlank = false → printNode p tag w v = some w' → w'.Ended
  | .null, p, tag, w, w', _, written => by
      rw [printNode] at written
      cases written
      exact Writer.ended_word (c := 'l') rfl rfl
  | .bool b, p, tag, w, w', _, written => by
      rw [printNode] at written
      cases written
      cases b <;> exact Writer.ended_word (c := 'e') rfl rfl
  | .number n, p, tag, w, w', _, written => by
      rw [printNode] at written
      cases written
      obtain ⟨ch, last, solid⟩ := numericText_ends n
      exact Writer.ended_word last solid
  | .string s, p, tag, w, w', solid, written => by
      rw [printNode] at written
      cases written
      exact Writer.ended_text solid
  | .sequence [], p, tag, w, w', _, written => by
      rw [printNode] at written
      cases written
      exact Writer.ended_mark (c := ']') rfl rfl
  | .mapping [], p, tag, w, w', _, written => by
      rw [printNode] at written
      cases written
      exact Writer.ended_mark (c := '\x7d') rfl rfl
  | .sequence (v :: rest), p, tag, w, w', solid, written => by
      rw [printNode] at written
      · exact ended_printItems (v :: rest) _ _ w' (List.cons_ne_nil _ _) solid written
      · nofun
  | .mapping (e :: rest), p, tag, w, w', solid, written => by
      rw [printNode] at written
      · split at written
        · cases written
        · exact ended_printEntries (e :: rest) _ _ w' (List.cons_ne_nil _ _) solid written
      · nofun
  | .tagged t v, p, tag, w, w', solid, written => by
      rw [printNode] at written
      split at written
      · cases written
      · exact ended_printNode v p (some t) w w' solid written

theorem ended_printItems : ∀ (items : List Value) (indent : Nat) (w w' : Writer), items ≠ [] →
    (Value.sequence items).endsInBlank = false → printItems indent w items = some w' → w'.Ended
  | [], _, _, _, more, _, _ => absurd rfl more
  | [v], indent, w, w', _, solid, written => by
      rw [printItems] at written
      obtain ⟨middle, first, written⟩ := Option.bind_eq_some_iff.mp written
      cases written
      exact ended_printNode v _ _ _ _ solid first
  | v :: next :: rest, indent, w, w', _, solid, written => by
      rw [printItems] at written
      obtain ⟨middle, -, written⟩ := Option.bind_eq_some_iff.mp written
      exact ended_printItems (next :: rest) _ _ _ (List.cons_ne_nil _ _) solid written

theorem ended_printEntries : ∀ (entries : List (Value × Value)) (indent : Nat) (w w' : Writer), entries ≠ [] →
    (Value.mapping entries).endsInBlank = false → printEntries indent w entries = some w' → w'.Ended
  | [], _, _, _, more, _, _ => absurd rfl more
  | [(k, v)], indent, w, w', _, solid, written => by
      rw [printEntries_cons] at written
      obtain ⟨key, -, written⟩ := Option.bind_eq_some_iff.mp written
      obtain ⟨middle, value, written⟩ := Option.bind_eq_some_iff.mp written
      cases written
      exact ended_printNode v _ _ _ _ solid value
  | (k, v) :: next :: rest, indent, w, w', _, solid, written => by
      rw [printEntries_cons] at written
      obtain ⟨key, -, written⟩ := Option.bind_eq_some_iff.mp written
      obtain ⟨middle, -, written⟩ := Option.bind_eq_some_iff.mp written
      exact ended_printEntries (next :: rest) _ _ _ (List.cons_ne_nil _ _) solid written
end

/-! ## A text that ends in a line feed and is written last

Such a text is written as a literal block or between double quotes.  Behind it come only the nulls of
mappings whose last key it ends. -/

/-- Neither a blank nor a break. -/
def isVisible (c : Char) : Bool := !(c == ' ') && !isBreak c

/-- The marks that begin a block scalar. -/
def isBlockMark (c : Char) : Bool := c == '|' || c == '>'

theorem counts_visible : Counts isVisible where
  blank := rfl
  break_ ch break_ := by rw [isVisible, break_, Bool.not_true, Bool.and_false]

theorem counts_blockMark : Counts isBlockMark where
  blank := rfl
  break_ ch break_ := by
    simp only [isBreak, Bool.or_eq_true, beq_iff_eq] at break_
    obtain (((rfl | rfl) | rfl) | rfl) | rfl := break_ <;> rfl

/-- A null behind the colon of its key. -/
def nullBehindKey : List Char := [':', ' ', 'n', 'u', 'l', 'l']

/-- The nulls of mappings that end here, each behind the colon of its key. -/
inductive Nulls : List Char → Prop
  | nil : Nulls []
  | snoc {cs gap : List Char} : Nulls cs → Writer.Indentation gap → Nulls (cs ++ (gap ++ nullBehindKey))

theorem Counts.indentation_zero {p : Char → Bool} (counts : Counts p) {gap : List Char}
    (indentation : Writer.Indentation gap) : gap.countP p = 0 := by
  obtain ⟨feed, k, feeds, rfl⟩ := indentation
  have feed : feed.countP p = 0 := counts.none fun ch member => by
    obtain rfl | rfl := feeds
    · cases member
    · cases List.mem_singleton.mp member
      rfl
  rw [List.countP_append, feed, List.countP_replicate, counts.blank]
  rfl

theorem Nulls.blockMarks {cs : List Char} (nulls : Nulls cs) : cs.countP isBlockMark = 0 := by
  induction nulls with
  | nil => rfl
  | snoc _ indentation ih =>
      rw [List.countP_append, List.countP_append, ih, counts_blockMark.indentation_zero indentation]
      rfl

theorem Nulls.visible {cs : List Char} (nulls : Nulls cs) (some : cs ≠ []) : 0 < cs.countP isVisible := by
  cases nulls with
  | nil => exact absurd rfl some
  | snoc _ _ =>
      have word : nullBehindKey.countP isVisible = 5 := rfl
      rw [List.countP_append, List.countP_append, word]
      omega

theorem Nulls.clean {cs : List Char} (nulls : Nulls cs) : Clean cs := by
  induction nulls with
  | nil => exact clean_nil
  | snoc _ indentation ih =>
      obtain ⟨feed, k, feeds, rfl⟩ := indentation
      have word : ∀ k, Clean (List.replicate k ' ' ++ nullBehindKey) ∧
          atBreak (List.replicate k ' ' ++ nullBehindKey) = false := by
        intro k
        induction k with
        | zero =>
            have trim : Trim nullBehindKey := ⟨nofun, fun _ => rfl, nofun, nofun, nofun, nofun, trivial⟩
            exact ⟨⟨List.all_eq_true.mp rfl, trim⟩, rfl⟩
        | succ k ih => exact ⟨ih.1.blank_cons ih.2, rfl⟩
      have feed : Feeds feed := by
        obtain rfl | rfl := feeds
        · exact feeds_nil
        · exact List.forall_mem_singleton.mpr (.inl rfl)
      rw [List.append_assoc]
      exact ih.append (feed.clean.append (word k).1)

/-- How a text that ends in a line feed is written: the lines of a literal block, from the break behind their
header on, or a word between double quotes. -/
inductive Written (s : String) : List Char → Prop
  | literal {body : List Char} : textStyle s = .literal →
      (∀ p, Counts p → body.countP p = s.toList.countP p) → Written s ('\n' :: body)
  | double {word : List Char} : textStyle s = .double → (∀ ch ∈ word, isBreak ch = false) →
      s.toList.countP isVisible < word.countP isVisible → Written s word

namespace Writer

theorem shown_lines (indent : Nat) : ∀ (cs : List Char) (broken : Bool) (w : Writer),
    ∃ body, (lines indent (fun c => [c]) broken cs w).1.shown = w.shown ++ body ∧
      ∀ p, Counts p → body.countP p = cs.countP p := by
  intro cs
  induction cs with
  | nil => exact fun broken w => ⟨[], (List.append_nil _).symm, fun _ _ => rfl⟩
  | cons c r ih =>
      intro broken w
      rw [lines]
      split
      · next break_ =>
          obtain ⟨body, shown, count⟩ := ih true { w.putBreak c with fresh := true }
          refine ⟨c :: body, shown.trans ?_, fun p counts => ?_⟩
          · exact (congrArg (· ++ body) (w.shown_putBreak c)).trans (by rw [List.append_assoc, List.singleton_append])
          · rw [List.countP_cons, List.countP_cons, count p counts]
      · obtain ⟨gap, indentation, before⟩ : ∃ gap, Indentation gap ∧
            (if broken = true then w.indentTo indent else w).shown = w.shown ++ gap := by
          split
          · exact w.shown_indentTo indent
          · exact ⟨[], ⟨[], 0, .inl rfl, rfl⟩, (List.append_nil _).symm⟩
        obtain ⟨body, shown, count⟩ :=
          ih false { (if broken = true then w.indentTo indent else w).puts [c] with fresh := false }
        refine ⟨gap ++ c :: body, shown.trans ?_, fun p counts => ?_⟩
        · refine (congrArg (· ++ body) (shown_puts _ [c])).trans ?_
          rw [before, List.append_assoc, List.append_assoc, List.singleton_append]
        · rw [List.countP_append, counts.indentation_zero indentation, Nat.zero_add, List.countP_cons,
            List.countP_cons, count p counts]

theorem not_break_of_hexUpper (width : Nat) : ∀ (n : Nat), ∀ ch ∈ hexUpper width n, isBreak ch = false := by
  have digit : ∀ k, k < 16 → isBreak (upperChar (hexDigit k)) = false := by decide
  induction width with
  | zero => exact fun _ => List.forall_mem_nil _
  | succ width ih =>
      intro n
      rw [hexUpper, hexPadded, List.map_append]
      exact List.forall_mem_append.mpr
        ⟨ih (n / 16), List.forall_mem_singleton.mpr (digit _ (Nat.mod_lt _ (by decide)))⟩

theorem not_break_of_escape (c : Char) : ∀ ch ∈ escape c, isBreak ch = false := by
  have letter : ∀ ch ∈ escapeLetter c, isBreak ch = false := by
    unfold escapeLetter
    dsimp only
    split
    case h_16 =>
      split
      · exact List.forall_mem_cons.mpr ⟨rfl, not_break_of_hexUpper 2 _⟩
      · split
        · exact List.forall_mem_cons.mpr ⟨rfl, not_break_of_hexUpper 4 _⟩
        · exact List.forall_mem_cons.mpr ⟨rfl, not_break_of_hexUpper 8 _⟩
    all_goals exact List.forall_mem_singleton.mpr rfl
  unfold escape
  split
  · exact List.forall_mem_cons.mpr ⟨rfl, letter⟩
  · next plain =>
      simp only [Bool.or_eq_true, not_or] at plain
      exact List.forall_mem_singleton.mpr (by simpa using plain.1.1.2)

/-- Escapes begin with something to see. -/
theorem visible_escape (c : Char) : [c].countP isVisible ≤ (escape c).countP isVisible := by
  unfold escape
  split
  · have one : [c].countP isVisible ≤ 1 := List.countP_le_length
    have mark : ('\\' :: escapeLetter c).countP isVisible = (escapeLetter c).countP isVisible + 1 :=
      List.countP_cons_of_pos rfl
    omega
  · exact Nat.le_refl _

theorem visible_escapes (cs : List Char) : cs.countP isVisible ≤ (cs.flatMap escape).countP isVisible := by
  induction cs with
  | nil => exact Nat.le_refl _
  | cons c r ih =>
      have first := visible_escape c
      rw [List.flatMap_cons, List.countP_append, ← List.singleton_append, List.countP_append]
      omega

/-- A text with a line feed is written as a literal block or between double quotes. -/
theorem written_text {s : String} (feed : '\n' ∈ s.toList) (indent : Nat) (w : Writer) :
    ∃ before word, (w.text indent s).shown = before ++ word ∧ Written s word := by
  have wanted : wantedStyle s = .literal := if_pos (List.contains_iff_mem.mpr feed)
  have style : textStyle s = .literal ∨ textStyle s = .double := by
    unfold textStyle
    rw [wanted]
    dsimp only
    split
    · exact .inl rfl
    · exact .inr rfl
  unfold text
  obtain style | style := style
  · rw [style]
    unfold literal
    dsimp only
    generalize w.mark _ true false false = begun
    obtain ⟨body, shown, count⟩ :=
      shown_lines indent s.toList true { begun.putBreak '\n' with fresh := true, spaced := true }
    refine ⟨begun.shown, '\n' :: body, shown.trans ?_, .literal style count⟩
    exact (congrArg (· ++ body) (begun.shown_putBreak '\n')).trans (by rw [List.append_assoc, List.singleton_append])
  · rw [style]
    obtain ⟨gap, -, shown⟩ := w.shown_word ('"' :: s.toList.flatMap escape ++ ['"'])
    refine ⟨_, _, shown, .double style ?_ ?_⟩
    · rw [List.cons_append]
      refine List.forall_mem_cons.mpr ⟨rfl, List.forall_mem_append.mpr ⟨?_, List.forall_mem_singleton.mpr rfl⟩⟩
      intro ch member
      obtain ⟨c, -, inside⟩ := List.mem_flatMap.mp member
      exact not_break_of_escape c ch inside
    · have inner := visible_escapes s.toList
      have quotes : ('"' :: s.toList.flatMap escape ++ ['"']).countP isVisible =
          (s.toList.flatMap escape).countP isVisible + 2 := by
        rw [List.countP_append, List.countP_cons_of_pos rfl]
        rfl
      omega

end Writer

theorem printItems_append (indent : Nat) (v : Value) : ∀ (front : List Value) (w w' : Writer),
    printItems indent w (front ++ [v]) = some w' → ∃ u, printNode ⟨indent, false⟩ none u v = some w' := by
  intro front
  induction front with
  | nil =>
      intro w w' written
      rw [List.nil_append, printItems] at written
      obtain ⟨middle, first, written⟩ := Option.bind_eq_some_iff.mp written
      cases written
      exact ⟨_, first⟩
  | cons v front ih =>
      intro w w' written
      rw [List.cons_append, printItems] at written
      obtain ⟨middle, -, written⟩ := Option.bind_eq_some_iff.mp written
      exact ih _ _ written

theorem printEntries_append (indent : Nat) (k v : Value) : ∀ (front : List (Value × Value)) (w w' : Writer),
    printEntries indent w (front ++ [(k, v)]) = some w' →
      ∃ u x, printKey indent u k = some x ∧ printNode ⟨indent, true⟩ none x v = some w' := by
  intro front
  induction front with
  | nil =>
      intro w w' written
      rw [List.nil_append, printEntries_cons] at written
      obtain ⟨x, key, written⟩ := Option.bind_eq_some_iff.mp written
      obtain ⟨middle, value, written⟩ := Option.bind_eq_some_iff.mp written
      cases written
      exact ⟨w, x, key, value⟩
  | cons e front ih =>
      intro w w' written
      rw [List.cons_append, printEntries_cons] at written
      obtain ⟨x, -, written⟩ := Option.bind_eq_some_iff.mp written
      obtain ⟨middle, -, written⟩ := Option.bind_eq_some_iff.mp written
      exact ih _ _ written

theorem printNode_sequence {p : Place} {tag : Option String} {w w' : Writer} {items : List Value}
    (some : items ≠ []) (written : printNode p tag w (.sequence items) = Option.some w') :
    ∃ indent, printItems indent (w.tag tag) items = Option.some w' := by
  rw [printNode] at written
  · exact ⟨_, written⟩
  · exact some

theorem printNode_mapping {p : Place} {tag : Option String} {w w' : Writer} {entries : List (Value × Value)}
    (some : entries ≠ []) (written : printNode p tag w (.mapping entries) = Option.some w') :
    ∃ indent, printEntries indent (w.tag tag) entries = Option.some w' := by
  rw [printNode] at written
  · split at written
    · cases written
    · exact ⟨_, written⟩
  · exact some

/-- The octets of a key on one line, its tag left out. -/
def keySize? : Value → Option Nat
  | .sequence [] => some 0
  | .mapping [] => some 0
  | v => (scalarText v).bind fun (s, broken) => if broken then none else some s.utf8ByteSize

theorem keySize?_of_lastText {s : String} (feed : '\n' ∈ s.toList) {k : Value} (last : k.LastText s) :
    keySize? k = none := by
  cases last with
  | string =>
      have broken : s.toList.any isBreak = true := List.any_eq_true.mpr ⟨'\n', feed, rfl⟩
      simp [keySize?, scalarText, broken]
  | tagged => rfl
  | item front => cases front <;> rfl
  | value front => cases front <;> rfl
  | key front => cases front <;> rfl

/-- A value that ends in a text with a line feed is no key on one line. -/
theorem isSimpleKey_of_lastText {s : String} (feed : '\n' ∈ s.toList) {k : Value} (last : k.LastText s) :
    isSimpleKey k = false := by
  have untagged : ∀ v : Value, v.LastText s → ∀ size : Nat → Bool, (keySize? v).any size = false := by
    intro v last size
    rw [keySize?_of_lastText feed last]
    rfl
  cases last with
  | tagged t last => exact untagged _ last _
  | string => exact untagged _ .string _
  | item front last => exact untagged _ (.item front last) _
  | value front k last => exact untagged _ (.value front k last) _
  | key front last => exact untagged _ (.key front last) _

/-- The text of a value that ends in a text with a line feed, nulls aside. -/
theorem written_lastText {s : String} (feed : '\n' ∈ s.toList) {v : Value} (last : v.LastText s) :
    ∀ {p : Place} {tag : Option String} {w w' : Writer}, printNode p tag w v = some w' →
      ∃ before word nulls, w'.shown = before ++ (word ++ nulls) ∧ Written s word ∧ Nulls nulls ∧
        (nulls = [] → v.lastText? = some s) := by
  induction last with
  | string =>
      intro p tag w w' written
      rw [printNode] at written
      cases written
      obtain ⟨before, word, shown, spelled⟩ := Writer.written_text feed p.deeper (w.tag tag)
      exact ⟨before, word, [], by rw [shown, List.append_nil], spelled, .nil, fun _ => by rw [Value.lastText?]⟩
  | tagged t _ ih =>
      intro p tag w w' written
      rw [printNode] at written
      split at written
      · cases written
      · rw [Value.lastText?]
        exact ih written
  | item front _ ih =>
      intro p tag w w' written
      obtain ⟨indent, written⟩ := printNode_sequence (by simp) written
      obtain ⟨u, written⟩ := printItems_append _ _ _ _ _ written
      rw [Value.lastText?, Value.lastItem?_append]
      exact ih written
  | value front k _ ih =>
      intro p tag w w' written
      obtain ⟨indent, written⟩ := printNode_mapping (by simp) written
      obtain ⟨u, x, -, written⟩ := printEntries_append _ _ _ _ _ _ written
      rw [Value.lastText?, Value.lastEntry?_append]
      exact ih written
  | key front last ih =>
      intro p tag w w' written
      obtain ⟨indent, written⟩ := printNode_mapping (by simp) written
      obtain ⟨u, x, key, value⟩ := printEntries_append _ _ _ _ _ _ written
      rw [printKey, isSimpleKey_of_lastText feed last] at key
      obtain ⟨y, key, same⟩ := Option.map_eq_some_iff.mp key
      obtain ⟨before, word, nulls, shown, spelled, further, -⟩ := ih key
      obtain ⟨gap, indentation, indented⟩ := y.shown_indentTo indent
      rw [printNode] at value
      cases value
      cases same
      refine ⟨before, word, nulls ++ (gap ++ nullBehindKey), ?_, spelled, .snoc further indentation, ?_⟩
      · refine ((y.indentTo indent).shown_null rfl).trans ?_
        rw [indented, shown, nullBehindKey]
        simp only [List.append_assoc]
      · simp [nullBehindKey]

end HeatStack.Yaml
