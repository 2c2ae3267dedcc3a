import HeatStack.Proofs.TrailingBreak
import HeatStack.Yaml.Printer

/-! # What a block scalar is read from

Reading a block scalar drops indentation, joins lines and turns breaks into line feeds, so blanks and
breaks may change.  Of every other character the text has as many as its lines (`block?_region`).
Lines without blanks at their ends and with printable characters only give a text that could itself be
written as a block. -/
set_option autoImplicit false
namespace HeatStack.Yaml
open HeatStack.Text

/-! ## Texts -/

/-- Characters that count: neither blanks nor breaks do. -/
structure Counts (p : Char → Bool) : Prop where
  blank : p ' ' = false
  break_ : ∀ ch, isBreak ch = true → p ch = false

/-- What a break stands for in a scalar. -/
def Feeds (cs : List Char) : Prop := ∀ ch ∈ cs, ch = '\n' ∨ ch = '\u2028' ∨ ch = '\u2029'

/-- No blank stands before a break or at the end. -/
def Trim : List Char → Prop
  | [] => True
  | ch :: r => (ch = ' ' → atBreak r = false) ∧ Trim r

/-- Printable characters without blanks at the ends of lines. -/
structure Clean (cs : List Char) : Prop where
  printable : ∀ ch ∈ cs, isPrintable ch = true
  trim : Trim cs

theorem feeds_nil : Feeds [] := List.forall_mem_nil _

theorem Feeds.append {a b : List Char} (first : Feeds a) (second : Feeds b) : Feeds (a ++ b) :=
  List.forall_mem_append.mpr ⟨first, second⟩

theorem Feeds.break_ {cs : List Char} (feeds : Feeds cs) : ∀ ch ∈ cs, isBreak ch = true := by
  intro ch member
  obtain rfl | rfl | rfl := feeds ch member <;> rfl

theorem feeds_breakText (c : Cursor) : Feeds c.breakText := by
  unfold Cursor.breakText
  split
  · exact feeds_nil
  · split
    · next separator => exact List.forall_mem_singleton.mpr (.inr separator)
    · split
      · exact List.forall_mem_singleton.mpr (.inl rfl)
      · exact feeds_nil

theorem Counts.none {p : Char → Bool} (counts : Counts p) {cs : List Char}
    (breaks : ∀ ch ∈ cs, isBreak ch = true) : cs.countP p = 0 :=
  List.countP_eq_zero.mpr fun ch member => Bool.eq_false_iff.mp (counts.break_ ch (breaks ch member))

theorem trim_append : ∀ {a b : List Char}, Trim a → Trim b → Trim (a ++ b) := by
  intro a b
  induction a with
  | nil => exact fun _ second => second
  | cons ch r ih =>
      intro first second
      refine ⟨fun blank => ?_, ih first.2 second⟩
      have more := first.1 blank
      cases r with
      | nil => cases more
      | cons next r => exact more

theorem Trim.suffix {a b : List Char} (trim : Trim b) (behind : a <:+ b) : Trim a := by
  induction b with
  | nil =>
      rw [List.suffix_nil.mp behind]
      trivial
  | cons ch r ih =>
      obtain rfl | inner := List.suffix_cons_iff.mp behind
      · exact trim
      · exact ih trim.2 inner

theorem trim_of_no_blank {cs : List Char} (none : ∀ ch ∈ cs, ch ≠ ' ') : Trim cs := by
  induction cs with
  | nil => trivial
  | cons ch r ih =>
      obtain ⟨first, others⟩ := List.forall_mem_cons.mp none
      exact ⟨fun blank => absurd blank first, ih others⟩

theorem Clean.suffix {a b : List Char} (clean : Clean b) (behind : a <:+ b) : Clean a :=
  ⟨fun ch member => clean.printable ch (behind.subset member), clean.trim.suffix behind⟩

theorem Clean.append {a b : List Char} (first : Clean a) (second : Clean b) : Clean (a ++ b) :=
  ⟨List.forall_mem_append.mpr ⟨first.printable, second.printable⟩, trim_append first.trim second.trim⟩

theorem Feeds.clean {cs : List Char} (feeds : Feeds cs) : Clean cs where
  printable ch member := by obtain rfl | rfl | rfl := feeds ch member <;> rfl
  trim := trim_of_no_blank fun ch member => by
    obtain rfl | rfl | rfl := feeds ch member <;> decide

theorem clean_nil : Clean [] := ⟨List.forall_mem_nil _, trivial⟩

theorem counts_none : Counts fun _ => false := ⟨rfl, fun _ _ => rfl⟩

/-- The first line of a clean text. -/
theorem Clean.line {cs : List Char} (clean : Clean cs) : Clean (cs.takeWhile fun ch => !isBreak ch) := by
  refine ⟨fun ch member => clean.printable ch ((List.takeWhile_prefix _).subset member), ?_⟩
  have trim := clean.trim
  clear clean
  induction cs with
  | nil => trivial
  | cons ch r ih =>
      rw [List.takeWhile_cons]
      split
      · refine ⟨fun blank => ?_, ih trim.2⟩
        have more := trim.1 blank
        cases r with
        | nil => cases more
        | cons next r =>
            have other : isBreak next = false := more
            rw [List.takeWhile_cons, other]
            exact more
      · trivial

/-- A blank before a line that is not empty. -/
theorem Clean.blank_cons {cs : List Char} (clean : Clean cs) (more : atBreak cs = false) : Clean (' ' :: cs) :=
  ⟨List.forall_mem_cons.mpr ⟨rfl, clean.printable⟩, fun _ => more, clean.trim⟩

theorem Trim.no_pair {cs : List Char} (trim : Trim cs) :
    anyPair (fun a b => a == ' ' && isBreak b) (cs ++ ['\n']) = false := by
  induction cs with
  | nil => rfl
  | cons ch r ih =>
      have rest := ih trim.2
      have first : ∀ next more, r ++ ['\n'] = next :: more → (ch == ' ' && isBreak next) = false := by
        intro next more same
        by_cases blank : ch = ' '
        · have further := trim.1 blank
          cases r with
          | nil => cases further
          | cons c r =>
              cases same
              rw [show isBreak next = false from further, Bool.and_false]
        · rw [beq_eq_false_iff_ne.mpr blank, Bool.false_and]
      cases behind : r ++ ['\n'] with
      | nil => simp at behind
      | cons next more =>
          rw [List.cons_append, behind, anyPair, first next more behind, Bool.false_or, ← behind]
          exact rest

/-- Such a text can be written as a block, once a line feed ends it. -/
theorem block_of_clean {cs : List Char} (clean : Clean cs) : (analyse (cs ++ ['\n'])).block = true := by
  have some : (cs ++ ['\n']).isEmpty = false := by simp
  have printable : (cs ++ ['\n']).any (fun c => !isPrintable c) = false := by
    refine List.any_eq_false.mpr fun ch member => ?_
    obtain inside | last := List.mem_append.mp member
    · rw [clean.printable ch inside]
      exact Bool.false_ne_true
    · cases List.mem_singleton.mp last
      decide
  simp only [analyse, some, printable, clean.trim.no_pair, List.getLast?_concat]
  rfl

/-! ## Empty lines -/

section
variable {p : Char → Bool}

theorem Counts.skipBreak (counts : Counts p) (c : Cursor) : c.skipBreak.rest.countP p = c.rest.countP p := by
  unfold Cursor.skipBreak
  split
  · next here =>
      rw [here, List.countP_cons, List.countP_cons, counts.break_ '\r' rfl, counts.break_ '\n' rfl]
      rfl
  · next here =>
      split
      · next break_ =>
          rw [here, List.countP_cons, counts.break_ _ break_]
          rfl
      · rfl
  · rfl

theorem Counts.indentation (counts : Counts p) (indent : Option Nat) (c : Cursor) :
    (c.skipMany (indentation indent c)).rest.countP p = c.rest.countP p := by
  have blanks : (c.rest.take (Yaml.indentation indent c)).countP p = 0 := by
    refine List.countP_eq_zero.mpr fun ch member => ?_
    have within := (List.take_prefix_take_left (l := c.rest) (indentation_le indent c)).subset member
    rw [← List.prefix_iff_eq_take.mp (List.takeWhile_prefix _)] at within
    have blank := List.all_eq_true.mp List.all_takeWhile ch within
    rw [beq_iff_eq.mp blank, counts.blank]
    exact Bool.false_ne_true
  have parts := congrArg (List.countP p) (List.take_append_drop (Yaml.indentation indent c) c.rest)
  rwa [List.countP_append, blanks, Nat.zero_add] at parts

/-- Passing empty lines keeps what counts, and stops before a line with something on it. -/
theorem emptyLines?_region (counts : Counts p) (indent : Option Nat) (fuel : Nat) :
    ∀ (deepest deepest' : Nat) (breaks breaks' : List Char) (c d : Cursor),
      emptyLines? indent fuel deepest breaks c = some (deepest', breaks', d) → c.rest.length < fuel → Feeds breaks →
        Feeds breaks' ∧ d.rest.countP p = c.rest.countP p ∧ (d.rest ≠ [] → atBreak d.rest = false) := by
  induction fuel with
  | zero => exact fun _ _ _ _ c _ _ enough => absurd enough (Nat.not_lt_zero _)
  | succ fuel ih =>
      intro deepest deepest' breaks breaks' c d read enough feeds
      have passed := (c.rest_skipMany (indentation indent c)).length_le
      rw [emptyLines?_succ indent fuel deepest breaks c _ rfl] at read
      rw [← counts.indentation indent c]
      generalize c.skipMany (indentation indent c) = e at read passed ⊢
      split at read
      · cases read
      · split at read
        · next break_ =>
            obtain ⟨b, first, isBreak⟩ : ∃ b, e.rest.head? = some b ∧ isBreak b = true := by
              simpa [Option.any_eq_true] using break_
            obtain ⟨r, here⟩ := List.head?_eq_some_iff.mp first
            have shorter := Cursor.length_skipBreak_lt here isBreak
            rw [← counts.skipBreak e]
            exact ih _ _ _ _ _ _ read (by omega) (feeds.append (feeds_breakText e))
        · next other =>
            cases read
            refine ⟨feeds, rfl, fun more => ?_⟩
            obtain ⟨ch, r, here⟩ := List.exists_cons_of_ne_nil more
            simpa [here, atBreak] using other

end

/-! ## Lines -/

section
variable {p : Char → Bool}

theorem Counts.line (counts : Counts p) (c : Cursor) :
    (c.rest.takeWhile fun ch => !isBreak ch).countP p +
      (c.skipMany (c.rest.takeWhile fun ch => !isBreak ch).length).skipBreak.rest.countP p = c.rest.countP p := by
  rw [counts.skipBreak, ← List.countP_append, ← c.rest_of_prefix (List.takeWhile_prefix _)]

/-- The lines of a block scalar have what counts, as do those that come behind it. -/
theorem blockLines?_region (counts : Counts p) (literal : Bool) (indent fuel : Nat) :
    ∀ (pending empties : List Char) (blankBefore : Bool) (c : Cursor) (b : BlockLines),
      blockLines? literal indent fuel pending empties blankBefore c = some b → Feeds pending → Feeds empties →
        Feeds b.lastBreak ∧ Feeds b.trailing ∧ b.text.countP p + b.next.rest.countP p = c.rest.countP p := by
  induction fuel with
  | zero =>
      intro pending empties blankBefore c b scan
      cases scan
  | succ fuel ih =>
      intro pending empties blankBefore c b scan before between
      obtain rfl | ⟨folds, -, deepest, after, next, blankHere, more, passed, scanned, rfl⟩ :=
        blockLines?_step _ _ _ _ _ _ _ _ scan
      · exact ⟨before, between, Nat.zero_add _⟩
      · have shorter := (Cursor.rest_skipBreak (c.skipMany (c.rest.takeWhile fun ch => !isBreak ch).length)).length_le
        obtain ⟨feeds, empty, -⟩ := emptyLines?_region counts _ _ _ _ _ _ _ _ passed (by omega) feeds_nil
        obtain ⟨last, trailing, rest⟩ := ih _ _ _ _ _ scanned (feeds_breakText _) feeds
        refine ⟨last, trailing, ?_⟩
        have joint : (if folds then (if empties.isEmpty then [' '] else []) else pending).countP p = 0 := by
          cases folds with
          | false => exact counts.none before.break_
          | true =>
              cases empties with
              | nil => simp [counts.blank]
              | cons ch r => rfl
        have line := counts.line c
        simp only [List.countP_append, joint, counts.none between.break_]
        omega

/-- Clean lines give a clean text.  Where two of them are folded into one, a blank stands between them, and
the second is not empty. -/
theorem blockLines?_clean (literal : Bool) (indent fuel : Nat) : ∀ (pending empties : List Char)
    (blankBefore : Bool) (c : Cursor) (b : BlockLines),
    blockLines? literal indent fuel pending empties blankBefore c = some b → Feeds pending → Feeds empties →
      (c.rest ≠ [] → atBreak c.rest = false) → Clean c.rest → Clean b.text := by
  induction fuel with
  | zero =>
      intro pending empties blankBefore c b scan
      cases scan
  | succ fuel ih =>
      intro pending empties blankBefore c b scan before between first clean
      by_cases ended : c.rest = []
      · rw [blockLines?_nil literal indent fuel pending empties blankBefore ended] at scan
        cases scan
        exact clean_nil
      obtain rfl | ⟨folds, -, deepest, after, next, blankHere, more, passed, scanned, rfl⟩ :=
        blockLines?_step _ _ _ _ _ _ _ _ scan
      · exact clean_nil
      · have behind := Cursor.rest_skipBreak (c.skipMany (c.rest.takeWhile fun ch => !isBreak ch).length)
        obtain ⟨feeds, -, further⟩ := emptyLines?_region counts_none _ _ _ _ _ _ _ _ passed
          (Nat.lt_succ_of_le behind.length_le) feeds_nil
        have inside := (emptyLines?_passes _ _ _ _ _ _ _ _ passed letterless_nil).1.trans
          (behind.trans (c.rest_skipMany _))
        have rest := ih _ _ _ _ _ scanned (feeds_breakText _) feeds further (clean.suffix inside)
        have some : atBreak (c.rest.takeWhile fun ch => !isBreak ch) = false := by
          have here := first ended
          cases line : c.rest with
          | nil => exact absurd line ended
          | cons ch r =>
              rw [line] at here
              rw [List.takeWhile_cons, show isBreak ch = false from here]
              exact here
        have joined : Clean ((if folds then (if empties.isEmpty then [' '] else []) else pending) ++ empties ++
            (c.rest.takeWhile fun ch => !isBreak ch)) := by
          cases folds with
          | false => exact (before.append between).clean.append clean.line
          | true =>
              cases empties with
              | nil => exact clean.line.blank_cons some
              | cons ch r => exact between.clean.append clean.line
        exact joined.append rest

/-! ## Block scalars -/

theorem not_break_of_digit {ch : Char} (digit : isDigit ch = true) : isBreak ch = false := by
  refine Bool.eq_false_iff.mpr fun break_ => ?_
  simp only [isBreak, Bool.or_eq_true, beq_iff_eq] at break_
  obtain (((rfl | rfl) | rfl) | rfl) | rfl := break_ <;> cases digit

theorem not_break_of_chomp? {ch : Char} {k : Chomp} (sign : chomp? ch = some k) : isBreak ch = false := by
  unfold chomp? at sign
  split at sign
  · rfl
  · rfl
  · cases sign

theorem not_break_of_space {ch : Char} (space : isSpace ch = true) : isBreak ch = false := by
  simp only [isSpace, Bool.or_eq_true, beq_iff_eq] at space
  obtain rfl | rfl := space <;> rfl

/-- The signs of the header are no breaks. -/
theorem inline_blockHeader? {cs : List Char} {k : Chomp} {given : Option Nat} {n : Nat}
    (read : blockHeader? cs = some (k, given, n)) : ∀ ch ∈ cs.take n, isBreak ch = false := by
  match cs with
  | [] => simp
  | [a] =>
      simp only [blockHeader?, Option.bind_eq_bind] at read
      grind [not_break_of_digit, not_break_of_chomp?]
  | a :: b :: r =>
      simp only [blockHeader?, Option.bind_eq_bind] at read
      grind [not_break_of_digit, not_break_of_chomp?]

/-- What stands before the cursor's place is on one line. -/
def Cursor.Inline (c d : Cursor) : Prop :=
  ∃ front, c.rest = front ++ d.rest ∧ ∀ ch ∈ front, isBreak ch = false

theorem Cursor.Inline.trans {c d e : Cursor} (first : c.Inline d) (second : d.Inline e) : c.Inline e := by
  obtain ⟨a, here, inline⟩ := first
  obtain ⟨b, there, inline'⟩ := second
  refine ⟨a ++ b, by rw [here, there, List.append_assoc], List.forall_mem_append.mpr ⟨inline, inline'⟩⟩

theorem Cursor.inline_skipWhile (c : Cursor) {q : Char → Bool} (other : ∀ ch, q ch = true → isBreak ch = false) :
    c.Inline (c.skipWhile q) :=
  ⟨c.rest.takeWhile q, c.rest_of_prefix (List.takeWhile_prefix q),
    fun ch member => other ch (List.all_eq_true.mp List.all_takeWhile ch member)⟩

theorem Cursor.inline_lineEnd (c : Cursor) : c.Inline (c.lineEnd isSpace) := by
  have blanks := c.inline_skipWhile (q := isSpace) fun _ => not_break_of_space
  unfold Cursor.lineEnd
  split
  · exact blanks.trans ((c.skipWhile isSpace).inline_skipWhile fun ch other => by simpa using other)
  · exact blanks

/-- The lines of a block scalar begin at the break behind its header.  Where they go on to the end, the text has
what counts in them, and it is clean if they are. -/
theorem blockBody?_region {literal : Bool} {parent : Int} {chomp : Chomp} {fixed : Option Nat} {c d : Cursor}
    {text : List Char} (scan : blockBody? literal parent chomp fixed c = some (text, d)) (ended : d.rest = []) :
    atBreak c.rest = true ∧ (∀ p, Counts p → text.countP p = c.rest.countP p) ∧ (Clean c.rest → Clean text) := by
  obtain ⟨at_break, scan⟩ := Option.ite_none_left_eq_some.mp scan
  obtain ⟨⟨deepest, empties, lines⟩, indented, scan⟩ := Option.bind_eq_some_iff.mp scan
  obtain ⟨b, scanned, scan⟩ := Option.bind_eq_some_iff.mp scan
  have enough := Nat.lt_succ_self c.skipBreak.rest.length
  have next : b.next.rest = [] := by
    cases chomp <;> cases scan <;> exact ended
  refine ⟨by simpa using at_break, fun p counts => ?_, fun clean => ?_⟩
  · obtain ⟨feeds, passed, -⟩ := emptyLines?_region counts _ _ _ _ _ _ _ _ indented enough feeds_nil
    obtain ⟨last, trailing, count⟩ := blockLines?_region counts _ _ _ _ _ _ _ _ scanned feeds_nil feeds
    rw [next, List.countP_nil, Nat.add_zero, passed, counts.skipBreak] at count
    cases chomp <;> cases scan <;>
      simp only [List.countP_append, counts.none last.break_, counts.none trailing.break_, count, Nat.add_zero]
  · obtain ⟨feeds, -, first⟩ := emptyLines?_region counts_none _ _ _ _ _ _ _ _ indented enough feeds_nil
    obtain ⟨last, trailing, -⟩ := blockLines?_region counts_none _ _ _ _ _ _ _ _ scanned feeds_nil feeds
    have inside := (emptyLines?_passes _ _ _ _ _ _ _ _ indented letterless_nil).1.trans c.rest_skipBreak
    have text := blockLines?_clean _ _ _ _ _ _ _ _ scanned feeds_nil feeds first (clean.suffix inside)
    cases chomp <;> cases scan
    · exact text
    · exact text.append last.clean
    · exact (text.append last.clean).append trailing.clean

/-- A block scalar behind its indicator is a header within the line, and lines from the break behind it on. -/
theorem block?_region {literal : Bool} {parent : Int} {c d : Cursor} {text : List Char}
    (scan : block? literal parent c = some (text, d)) (ended : d.rest = []) :
    ∃ header lines, c.rest = header ++ lines ∧ (∀ ch ∈ header, isBreak ch = false) ∧ atBreak lines = true ∧
      (∀ p, Counts p → text.countP p = lines.countP p) ∧ (Clean lines → Clean text) := by
  rw [block?_eq] at scan
  obtain ⟨⟨chomp, given, n⟩, header, scan⟩ := Option.bind_eq_some_iff.mp scan
  have signs : c.Inline (c.skipMany n) :=
    ⟨c.rest.take n, (List.take_append_drop n c.rest).symm, inline_blockHeader? header⟩
  obtain ⟨front, here, inline⟩ := signs.trans (c.skipMany n).inline_lineEnd
  exact ⟨front, _, here, inline, blockBody?_region scan ended⟩

end
end HeatStack.Yaml
