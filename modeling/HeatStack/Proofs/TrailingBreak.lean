import HeatStack.Proofs.TokenSpelling

/-! # A line break at the end of a text

A line break behind a text that ends in neither a blank nor a break is the same to the lexer as the end
of the text.  Every reader takes the same from both and stops before the break, or at the end of both;
the one exception is a block scalar, whose last line the break ends. -/
set_option autoImplicit false
namespace HeatStack.Yaml
open HeatStack.Text

/-- The last character, if there is one, is neither a blank nor a break. -/
def Settled (cs : List Char) : Prop := ∀ ch, cs.getLast? = some ch → isSpaceOrBreak ch = false

theorem Settled.suffix {cs r : List Char} (settled : Settled cs) (behind : r <:+ cs) : Settled r := by
  obtain ⟨front, rfl⟩ := behind
  intro ch last
  apply settled
  rw [List.getLast?_append, last, Option.some_or]

theorem Settled.not_gap {ch : Char} (settled : Settled [ch]) : isSpaceOrBreak ch = false := settled ch rfl

theorem Settled.more {ch : Char} {r : List Char} (settled : Settled (ch :: r))
    (gap : isSpaceOrBreak ch = true) : r ≠ [] := by
  rintro rfl
  rw [settled.not_gap] at gap
  cases gap

/-! ## Readers side by side -/

section
variable {α β γ δ : Type} {R : α → β → Prop} {R' : γ → δ → Prop}

theorem rel_map_iff {f : α → β} {x : Option α} {y : Option β} :
    Option.Rel (fun a b => b = f a) x y ↔ y = x.map f := by
  cases x <;> cases y <;> simp

theorem rel_map {x : Option α} {y : Option β} {f : α → γ} {g : β → δ}
    (both : Option.Rel (fun a b => R' (f a) (g b)) x y) : Option.Rel R' (x.map f) (y.map g) := by
  cases both with
  | none => exact .none
  | some related => exact .some related

theorem rel_imp {R S : α → β → Prop} (weaker : ∀ a b, R a b → S a b) {x : Option α} {y : Option β}
    (both : Option.Rel R x y) : Option.Rel S x y := by
  cases both with
  | none => exact .none
  | some related => exact .some (weaker _ _ related)

/-- Two readers that decide alike. -/
theorem rel_ite {p q : Prop} [Decidable p] [Decidable q] {x y : Option α} {x' y' : Option β} (same : q ↔ p)
    (yes : p → Option.Rel R x x') (no : ¬ p → Option.Rel R y y') :
    Option.Rel R (if p then x else y) (if q then x' else y') := by
  by_cases holds : p
  · rw [if_pos holds, if_pos (same.mpr holds)]
    exact yes holds
  · rw [if_neg holds, if_neg fun other => holds (same.mp other)]
    exact no holds

/-- Two readers that go on from what they have read alike. -/
theorem rel_bind {x : Option α} {y : Option β} {f : α → Option γ} {g : β → Option δ} (both : Option.Rel R x y)
    (next : ∀ a b, x = some a → R a b → Option.Rel R' (f a) (g b)) :
    Option.Rel R' (x.bind f) (y.bind g) := by
  cases both with
  | none => exact .none
  | some related => exact next _ _ rfl related

end

/-! ## Characters before the break -/

theorem takeWhile_broken {p : Char → Bool} (stops : p '\n' = false) (cs : List Char) :
    (cs ++ ['\n']).takeWhile p = cs.takeWhile p := by
  induction cs with
  | nil => simp [stops]
  | cons ch r ih => simp only [List.cons_append, List.takeWhile_cons, ih]

theorem head?_broken {ch : Char} (other : '\n' ≠ ch) (cs : List Char) :
    (cs ++ ['\n']).head? = some ch ↔ cs.head? = some ch := by
  cases cs with
  | nil => simp [other]
  | cons => simp

theorem ne_nil_of_head? {ch : Char} {cs : List Char} (first : cs.head? = some ch) : cs ≠ [] := by
  rintro rfl
  cases first

theorem head?_front {cs : List Char} (some : cs ≠ []) : (cs ++ ['\n']).head? = cs.head? := by
  cases cs with
  | nil => exact absurd rfl some
  | cons => rfl

theorem head?_any_broken {p : Char → Bool} (stops : p '\n' = false) (cs : List Char) :
    (cs ++ ['\n']).head?.any p = cs.head?.any p := by
  cases cs with
  | nil => simp [stops]
  | cons => rfl

@[simp] theorem atGap_broken (cs : List Char) : atGap (cs ++ ['\n']) = atGap cs := by
  cases cs <;> rfl

@[simp] theorem atBreak_broken (cs : List Char) : atBreak (cs ++ ['\n']) = atBreak cs := by
  cases cs <;> rfl

theorem atDocumentMark_broken (cs : List Char) : atDocumentMark (cs ++ ['\n']) = atDocumentMark cs := by
  match cs with
  | [] => rfl
  | [a] => simp [atDocumentMark]
  | [a, b] => simp [atDocumentMark]
  | a :: b :: c :: r =>
      simp only [List.cons_append]
      by_cases dashes : a = '-' ∧ b = '-' ∧ c = '-'
      · obtain ⟨rfl, rfl, rfl⟩ := dashes
        exact atGap_broken r
      · by_cases dots : a = '.' ∧ b = '.' ∧ c = '.'
        · obtain ⟨rfl, rfl, rfl⟩ := dots
          exact atGap_broken r
        · have neither : ∀ r', atDocumentMark (a :: b :: c :: r') = false := by
            intro r'
            unfold atDocumentMark
            split
            · next same => simp_all
            · next same => simp_all
            · rfl
          rw [neither, neither]

/-! ## Cursors -/

namespace Cursor

/-- The same place in the text with a line break at its end. -/
def broken (c : Cursor) : Cursor := { c with rest := c.rest ++ ['\n'] }

variable (c : Cursor)

@[simp] theorem rest_broken : c.broken.rest = c.rest ++ ['\n'] := rfl
@[simp] theorem column_broken : c.broken.column = c.column := rfl

theorem length_broken : c.broken.rest.length = c.rest.length + 1 := List.length_append

variable {c}

theorem rest_broken_nil (ended : c.rest = []) : c.broken.rest = ['\n'] := by
  rw [rest_broken, ended, List.nil_append]

theorem rest_broken_cons {ch : Char} {r : List Char} (here : c.rest = ch :: r) :
    c.broken.rest = ch :: (r ++ ['\n']) := by
  rw [rest_broken, here, List.cons_append]

theorem skip_broken (some : c.rest ≠ []) : c.broken.skip = c.skip.broken := by
  obtain ⟨ch, r, here⟩ := List.exists_cons_of_ne_nil some
  simp [skip, broken, here]

theorem skipMany_broken {n : Nat} (enough : n ≤ c.rest.length) :
    c.broken.skipMany n = (c.skipMany n).broken := by
  simp [skipMany, broken, List.drop_append_of_le_length enough]

theorem skipWhile_broken {p : Char → Bool} (stops : p '\n' = false) :
    c.broken.skipWhile p = (c.skipWhile p).broken := by
  rw [skipWhile, rest_broken, takeWhile_broken stops, skipMany_broken (List.takeWhile_prefix p).length_le, skipWhile]

theorem skipLine_broken : c.broken.skipLine = c.skipLine.broken := skipWhile_broken (by decide)

theorem breakText_broken (some : c.rest ≠ []) : c.broken.breakText = c.breakText := by
  obtain ⟨ch, r, here⟩ := List.exists_cons_of_ne_nil some
  simp [breakText, here]

theorem skipBreak_pair {r : List Char} (here : c.rest = '\r' :: '\n' :: r) :
    c.skipBreak = ⟨r, c.index + 2, c.line + 1, 0⟩ := by
  simp only [skipBreak, here]

theorem skipBreak_one {b : Char} {r : List Char} (here : c.rest = b :: r)
    (alone : b = '\r' → r.head? ≠ some '\n') :
    c.skipBreak = if isBreak b then ⟨r, c.index + 1, c.line + 1, 0⟩ else c := by
  unfold skipBreak
  split
  · next r' pair =>
      rw [here] at pair
      cases pair
      exact absurd rfl (alone rfl)
  · next b' r' _ one =>
      rw [here] at one
      cases one
      rfl
  · next nothing =>
      rw [here] at nothing
      cases nothing

theorem skipBreak_broken (some : c.rest ≠ []) (settled : Settled c.rest) :
    c.broken.skipBreak = c.skipBreak.broken := by
  obtain ⟨b, r, here⟩ := List.exists_cons_of_ne_nil some
  by_cases pair : b = '\r' ∧ r.head? = .some '\n'
  · obtain ⟨rfl, next⟩ := pair
    obtain ⟨r', rfl⟩ := List.head?_eq_some_iff.mp next
    rw [skipBreak_pair here, skipBreak_pair (rest_broken_cons here)]
    rfl
  · have alone : b = '\r' → r.head? ≠ .some '\n' := fun return_ next => pair ⟨return_, next⟩
    have alone' : b = '\r' → (r ++ ['\n']).head? ≠ .some '\n' := by
      rintro rfl
      cases r with
      | nil =>
          rw [here] at settled
          cases settled.not_gap
      | cons => exact alone rfl
    rw [skipBreak_one here alone, skipBreak_one (rest_broken_cons here) alone']
    split <;> rfl

theorem rest_skipBreak_nil (ended : c.rest = []) : c.skipBreak.rest = [] := by
  have behind := c.rest_skipBreak
  rwa [ended, List.suffix_nil] at behind

/-- At the end of the text the break alone is passed. -/
theorem skipBreak_broken_nil (ended : c.rest = []) :
    c.broken.skipBreak = ⟨[], c.index + 1, c.line + 1, 0⟩ := by
  rw [skipBreak_one (rest_broken_nil ended) nofun]
  rfl

/-- Behind a gap comes more, as the text does not end in one. -/
theorem rest_skip_ne_nil {ch : Char} {r : List Char} (here : c.rest = ch :: r) (settled : Settled c.rest)
    (gap : isSpaceOrBreak ch = true) : c.skip.rest ≠ [] := by
  rw [here] at settled
  rw [skip, here]
  exact settled.more gap

theorem rest_skipBreak_ne_nil {b : Char} {r : List Char} (here : c.rest = b :: r) (settled : Settled c.rest)
    (break_ : isBreak b = true) : c.skipBreak.rest ≠ [] := by
  rw [here] at settled
  by_cases pair : b = '\r' ∧ r.head? = .some '\n'
  · obtain ⟨rfl, next⟩ := pair
    obtain ⟨r', rfl⟩ := List.head?_eq_some_iff.mp next
    rw [skipBreak_pair here]
    exact (settled.suffix (List.suffix_cons ..)).more rfl
  · rw [skipBreak_one here fun return_ next => pair ⟨return_, next⟩, if_pos break_]
    exact settled.more (Bool.or_eq_true_iff.mpr (.inr break_))

theorem lineEnd_broken {blank : Char → Bool} (stops : blank '\n' = false) (c : Cursor) :
    c.broken.lineEnd blank = (c.lineEnd blank).broken := by
  simp only [lineEnd, skipWhile_broken stops, rest_broken, head?_broken (show '\n' ≠ '#' by decide),
    skipLine_broken]
  split <;> rfl

/-- The same place in both texts, before the break, or the end of both. -/
inductive Beside : Cursor → Cursor → Prop
  | before (c : Cursor) : Settled c.rest → Beside c c.broken
  | behind {c d : Cursor} : c.rest = [] → d.rest = [] → Beside c d

theorem skipBreak_beside (c : Cursor) (settled : Settled c.rest) : Beside c.skipBreak c.broken.skipBreak := by
  by_cases nothing : c.rest = []
  · exact .behind (rest_skipBreak_nil nothing) (by rw [skipBreak_broken_nil nothing])
  · rw [skipBreak_broken nothing settled]
    exact .before _ (settled.suffix c.rest_skipBreak)

end Cursor

/-- What has been read, with the cursor in the text with the break. -/
def breakBehind {α : Type} (x : α × Cursor) : α × Cursor := (x.1, x.2.broken)

/-- The same has been read, up to places beside each other. -/
def SameRead {α : Type} (x y : α × Cursor) : Prop := y.1 = x.1 ∧ x.2.Beside y.2

/-! ## Gaps -/

theorem Cursor.length_skip_lt {c : Cursor} (some : c.rest ≠ []) : c.skip.rest.length < c.rest.length := by
  obtain ⟨ch, r, here⟩ := List.exists_cons_of_ne_nil some
  simp [skip, here]

theorem Cursor.length_skipBreak_lt {c : Cursor} {b : Char} {r : List Char} (here : c.rest = b :: r)
    (break_ : isBreak b = true) : c.skipBreak.rest.length < c.rest.length := by
  by_cases pair : b = '\r' ∧ r.head? = some '\n'
  · obtain ⟨rfl, next⟩ := pair
    obtain ⟨r', rfl⟩ := List.head?_eq_some_iff.mp next
    rw [skipBreak_pair here, here]
    simp only [List.length_cons]
    omega
  · rw [skipBreak_one here fun return_ next => pair ⟨return_, next⟩, if_pos break_, here]
    exact Nat.lt_succ_self _

namespace Gap

/-- A gap is read to its end. -/
theorem read?_broken (tabsFrom : Option Int) (fuel : Nat) : ∀ (c : Cursor) (g : Gap),
    c.rest.length ≤ fuel → Settled c.rest → c.rest ≠ [] →
      read? tabsFrom (fuel + 1) c.broken g = (read? tabsFrom fuel c g).map breakBehind ∧
      ∀ x, read? tabsFrom fuel c g = some x → x.2.rest ≠ [] := by
  induction fuel with
  | zero =>
      intro c g enough _ some
      exact absurd (List.length_eq_zero_iff.mp (Nat.le_zero.mp enough)) some
  | succ fuel ih =>
      intro c g enough settled some
      obtain ⟨ch, r, here⟩ := List.exists_cons_of_ne_nil some
      unfold read?
      simp only [here, Cursor.rest_broken_cons here]
      by_cases blank : isSpace ch = true
      · have gap : isSpaceOrBreak ch = true := Bool.or_eq_true_iff.mpr (.inl blank)
        have next := fun g => ih c.skip g (Nat.le_of_lt_succ (Nat.lt_of_lt_of_le (Cursor.length_skip_lt some) enough))
          (settled.suffix c.rest_skip) (Cursor.rest_skip_ne_nil here settled gap)
        rw [if_pos blank, if_pos blank, Cursor.skip_broken some]
        cases g with
        | blanks cs => exact next _
        | breaks first others =>
            dsimp only
            by_cases tab : ch = '\t' ∧ tabsFrom.any (fun i => (c.column : Int) < i) = true
            · rw [if_pos tab, if_pos (show ch = '\t' ∧ tabsFrom.any (fun i => (c.broken.column : Int) < i) = true
                from tab)]
              exact ⟨rfl, nofun⟩
            · rw [if_neg tab, if_neg (show ¬ (ch = '\t' ∧ tabsFrom.any
                (fun i => (c.broken.column : Int) < i) = true) from tab)]
              exact next _
      · rw [if_neg blank, if_neg blank]
        by_cases break_ : isBreak ch = true
        · have next := fun g => ih c.skipBreak g
            (Nat.le_of_lt_succ (Nat.lt_of_lt_of_le (Cursor.length_skipBreak_lt here break_) enough))
            (settled.suffix c.rest_skipBreak) (Cursor.rest_skipBreak_ne_nil here settled break_)
          rw [if_pos break_, if_pos break_, Cursor.skipBreak_broken some settled, Cursor.breakText_broken some]
          cases g with
          | blanks cs => exact next _
          | breaks first others => exact next _
        · rw [if_neg break_, if_neg break_]
          refine ⟨rfl, fun x same => ?_⟩
          cases same
          exact some

/-- The break alone is read as a gap. -/
theorem read?_break (tabsFrom : Option Int) {c : Cursor} (ended : c.rest = []) (g : Gap) :
    ∃ g' d, read? tabsFrom c.broken.rest.length c.broken g = some (g', d) ∧ d.rest = [] := by
  have stops : isSpace '\n' = false := rfl
  have break_ : isBreak '\n' = true := rfl
  rw [c.length_broken, ended, List.length_nil]
  simp only [read?, Cursor.rest_broken_nil ended, stops, break_, if_true, Bool.false_eq_true, if_false,
    Cursor.skipBreak_broken_nil ended]
  cases g with
  | blanks cs => exact ⟨_, _, rfl, rfl⟩
  | breaks first others => exact ⟨_, _, rfl, rfl⟩

/-- A gap that is there takes something. -/
theorem length_read?_lt (tabsFrom : Option Int) {c d : Cursor} {g g' : Gap} {ch : Char} {r : List Char}
    (here : c.rest = ch :: r) (gap : isSpaceOrBreak ch = true)
    (read : read? tabsFrom c.rest.length c g = some (g', d)) : d.rest.length < c.rest.length := by
  have further : ∀ {fuel : Nat} {e : Cursor} {g : Gap}, read? tabsFrom fuel e g = some (g', d) →
      e.rest.length < c.rest.length → d.rest.length < c.rest.length := fun read shorter =>
    Nat.lt_of_le_of_lt (rest_read? _ _ _ _ _ _ read).length_le shorter
  have length : c.rest.length = r.length + 1 := by rw [here, List.length_cons]
  rw [length] at read
  unfold read? at read
  simp only [here] at read
  by_cases blank : isSpace ch = true
  · have shorter := Cursor.length_skip_lt (c := c) (by simp [here])
    rw [if_pos blank] at read
    cases g with
    | blanks cs => exact further read shorter
    | breaks first others => exact further (Option.ite_none_left_eq_some.mp read).2 shorter
  · have break_ : isBreak ch = true := (Bool.or_eq_true_iff.mp gap).resolve_left blank
    have shorter := Cursor.length_skipBreak_lt here break_
    rw [if_neg blank, if_pos break_] at read
    cases g with
    | blanks cs => exact further read shorter
    | breaks first others => exact further read shorter

end Gap

/-! ## Plain scalars -/

theorem plainWord?_broken (flow : Bool) (cs : List Char) :
    plainWord? flow (cs ++ ['\n']) = plainWord? flow cs := by
  induction cs with
  | nil => rfl
  | cons ch r ih =>
      rw [List.cons_append, plainWord?, plainWord?, ih, atGap_broken,
        head?_any_broken (p := fun n => isFlowMark n || n == '?') (by decide)]

/-- The same plain scalar, up to places beside each other. -/
inductive SameScan : Scanned → Scanned → Prop
  | before (s : Scanned) : SameScan s { s with next := s.next.broken }
  | behind {s t : Scanned} : t.text = s.text → s.next.rest = [] → t.next.rest = [] → SameScan s t

theorem SameScan.prepend {s t : Scanned} (same : SameScan s t) (front : List Char) :
    SameScan { s with text := front ++ s.text } { t with text := front ++ t.text } := by
  cases same with
  | before => exact .before _
  | behind text ended ended' => exact .behind (congrArg (front ++ ·) text) ended ended'

theorem plain?_nil (flow : Bool) (indent : Int) (fuel : Nat) {c : Cursor} (ended : c.rest = []) (gap : Gap) :
    plain? flow indent (fuel + 1) c gap = some ⟨[], gap.isBreaks, c⟩ := by
  obtain ⟨rest, index, line, column⟩ := c
  subst ended
  simp [plain?, atDocumentMark, plainWord?, Cursor.skipMany]

section
variable {flow : Bool} {indent : Int} {fuel : Nat} {lead : List Char} {gap : Gap} {c : Cursor}

/-- At the end of the text the break is read as a gap with nothing behind it. -/
theorem plainAfter?_break (ended : c.rest = []) :
    ∃ s, plainAfter? flow indent (fuel + 1) lead gap c.broken = some s ∧ s.text = lead ∧ s.next.rest = [] := by
  obtain ⟨wider, d, read, last⟩ := Gap.read?_break (some indent) ended gap
  have goes_on : ¬ (c.broken.rest.isEmpty || !atGap c.broken.rest) = true := by
    rw [Cursor.rest_broken_nil ended]
    decide
  rw [plainAfter?, if_neg goes_on, read]
  simp only [Option.bind_eq_bind, Option.bind_some]
  by_cases outside : (!flow && (d.column : Int) < indent) = true
  · rw [if_pos outside]
    exact ⟨_, rfl, rfl, last⟩
  · rw [if_neg outside, plain?_nil flow indent fuel last]
    exact ⟨_, rfl, List.append_nil _, last⟩

theorem plainAfter?_broken (settled : Settled c.rest)
    (next : ∀ (d : Cursor) (wider : Gap), d.rest.length < c.rest.length → Settled d.rest →
      Option.Rel SameScan (plain? flow indent fuel d wider) (plain? flow indent (fuel + 1) d.broken wider)) :
    Option.Rel SameScan (plainAfter? flow indent fuel lead gap c)
      (plainAfter? flow indent (fuel + 1) lead gap c.broken) := by
  by_cases spent : c.rest = []
  · obtain ⟨s, read, text, last⟩ : ∃ s, plainAfter? flow indent (fuel + 1) lead gap c.broken = some s ∧
        s.text = lead ∧ s.next.rest = [] := plainAfter?_break spent
    rw [read, plainAfter?, if_pos (by simp [spent])]
    exact .some (.behind text spent last)
  obtain ⟨ch, r, here⟩ := List.exists_cons_of_ne_nil spent
  refine rel_ite (by simp [spent]) (fun _ => .some (.before ⟨lead, gap.isBreaks, c⟩)) fun goes_on => ?_
  have blank : isSpaceOrBreak ch = true := by simpa [here, atGap] using goes_on
  obtain ⟨same, -⟩ := Gap.read?_broken (some indent) c.rest.length c gap (Nat.le_refl _) settled spent
  rw [← c.length_broken] at same
  refine rel_bind (rel_map_iff.mpr same) ?_
  rintro ⟨wider, d⟩ _ read rfl
  refine rel_ite Iff.rfl (fun _ => .some (.before ⟨lead, wider.isBreaks, d⟩)) fun _ => ?_
  refine rel_bind (next d wider (Gap.length_read?_lt _ here blank read)
    (settled.suffix (Gap.rest_read? _ _ _ _ _ _ read))) fun s t _ same => ?_
  exact .some (same.prepend lead)

end

theorem plain?_broken (flow : Bool) (indent : Int) (fuel : Nat) : ∀ (c : Cursor) (gap : Gap),
    c.rest.length < fuel → Settled c.rest →
      Option.Rel SameScan (plain? flow indent fuel c gap) (plain? flow indent (fuel + 1) c.broken gap) := by
  induction fuel with
  | zero => exact fun c _ enough => absurd enough (Nat.not_lt_zero _)
  | succ fuel ih =>
      intro c gap enough settled
      rw [plain?_succ, plain?_succ, Cursor.rest_broken, plainWord?_broken, atDocumentMark_broken]
      refine rel_ite (or_congr Iff.rfl (head?_broken (by decide) c.rest))
        (fun _ => .some (.before ⟨[], gap.isBreaks, c⟩)) fun _ => ?_
      cases read : plainWord? flow c.rest with
      | none => exact .none
      | some word =>
          have behind := c.rest_skipMany word.length
          rw [Option.bind_some, Option.bind_some,
            Cursor.skipMany_broken (prefix_of_plainWord? flow _ _ read).length_le]
          exact plainAfter?_broken (settled.suffix behind) fun d wider shorter =>
            ih d wider (by have := behind.length_le; omega)

/-! ## Quoted scalars -/

theorem numeral?_break (base : Nat) (ds : List Char) : numeral? base (ds ++ ['\n']) = none := by
  rw [numeral?, List.foldlM_append]
  exact Option.bind_eq_none_iff.mpr fun n _ => rfl

theorem escape?_broken {cs : List Char} (some : cs ≠ []) : escape? (cs ++ ['\n']) = escape? cs := by
  obtain ⟨letter, r, rfl⟩ := List.exists_cons_of_ne_nil some
  simp only [escape?, List.cons_append]
  cases escapeLetter? letter with
  | some c => rfl
  | none =>
      cases escapeDigits? letter with
      | none => rfl
      | some n =>
          simp only [List.length_append, List.length_singleton]
          by_cases short : r.length < n
          · rw [if_pos short]
            by_cases one : r.length + 1 < n
            · rw [if_pos one]
            · have whole : (r ++ ['\n']).take n = r ++ ['\n'] := by
                rw [List.take_of_length_le]
                simp only [List.length_append, List.length_singleton]
                omega
              rw [if_neg one, whole, numeral?_break]
              rfl
          · rw [if_neg short, if_neg (by omega), List.take_append_of_le_length (by omega)]

/-- The part that comes next is the same, unless a backslash stands alone at the end of the text: it
escapes the break. -/
theorem quotedPart_broken (single : Bool) (cs : List Char) :
    quotedPart single (cs ++ ['\n']) = quotedPart single cs ∨
    (cs = ['\\'] ∧ quotedPart single cs = .refuse ∧ quotedPart single (cs ++ ['\n']) = .join) := by
  cases cs with
  | nil => exact .inl rfl
  | cons ch r =>
      by_cases lone : single = false ∧ ch = '\\' ∧ r = []
      · obtain ⟨rfl, rfl, rfl⟩ := lone
        exact .inr ⟨rfl, rfl, rfl⟩
      refine .inl ?_
      rw [List.cons_append, quotedPart, quotedPart]
      refine ite_congr rfl (fun _ => rfl) fun _ => ?_
      refine ite_congr rfl (fun _ => ?_) fun double => ?_
      · simp only [head?_broken (show '\n' ≠ '\'' by decide)]
      refine ite_congr rfl (fun _ => rfl) fun _ => ?_
      refine ite_congr rfl (fun backslash => ?_) fun _ => rfl
      have more : r ≠ [] := fun none => lone ⟨Bool.eq_false_iff.mpr double, backslash, none⟩
      rw [head?_front more, escape?_broken more]

/-- A word between quotes is the same, unless a backslash stands at the end of the text. -/
theorem quotedWord?_broken (single : Bool) (fuel : Nat) : ∀ c : Cursor, c.rest.length ≤ fuel →
    Settled c.rest →
      quotedWord? single (fuel + 1) c.broken =
        (quotedWord? single fuel c).map (fun x => (x.1, x.2.1, x.2.2.broken)) ∨
      (quotedWord? single fuel c = none ∧
        ∃ x, quotedWord? single (fuel + 1) c.broken = some x ∧ x.2.2.rest = []) := by
  induction fuel with
  | zero =>
      intro c enough _
      have ended := List.length_eq_zero_iff.mp (Nat.le_zero.mp enough)
      rw [quotedWord?_succ, Cursor.rest_broken_nil ended]
      exact .inl rfl
  | succ fuel ih =>
      intro c enough settled
      have fits := quotedPart_fits single c.rest
      rw [quotedWord?_succ, quotedWord?_succ, Cursor.rest_broken]
      obtain same | ⟨lone, refused, joined⟩ := quotedPart_broken single c.rest
      · rw [same]
        cases part : quotedPart single c.rest with
        | stop => exact .inl rfl
        | refuse => exact .inl rfl
        | join =>
            rw [part] at fits
            obtain ⟨-, b, r, here, -⟩ := fits
            have more : c.skip.rest ≠ [] := by simp [Cursor.skip, here]
            dsimp only
            rw [Cursor.skip_broken (by simp [here]), Cursor.skipBreak_broken more (settled.suffix c.rest_skip)]
            exact .inl rfl
        | pass ch more =>
            rw [part] at fits
            have within : more + 1 ≤ c.rest.length := fits.1
            have shorter : (c.skipMany (more + 1)).rest.length ≤ fuel := by
              rw [Cursor.skipMany, List.length_drop]
              omega
            dsimp only
            rw [Cursor.skipMany_broken within]
            obtain same | ⟨none, x, read, last⟩ := ih _ shorter (settled.suffix (c.rest_skipMany _))
            · rw [same, Option.map_map, Option.map_map]
              exact .inl rfl
            · rw [none, read]
              exact .inr ⟨rfl, _, rfl, last⟩
      · rw [refused, joined]
        refine .inr ⟨rfl, _, rfl, ?_⟩
        dsimp only
        rw [Cursor.skip_broken (by simp [lone]), Cursor.skipBreak_broken_nil (by simp [Cursor.skip, lone])]

theorem quoted?_nil (single : Bool) (fuel : Nat) {c : Cursor} (ended : c.rest = []) :
    quoted? single fuel c = none := by
  cases fuel with
  | zero => rfl
  | succ fuel => simp [quoted?, ended]

section
variable {single joined : Bool} {fuel : Nat} {word : List Char} {c d e : Cursor} {gap : Gap}

/-- At the end of the text nothing closes the quote. -/
theorem quotedAfter?_nil {x : List Char × Bool × Cursor} (ended : x.2.2.rest = []) :
    quotedAfter? single fuel x = none := by
  have read : ∀ g, Gap.read? none x.2.2.rest.length x.2.2 g = some (g, x.2.2) := by
    intro g
    rw [ended]
    rfl
  rw [quotedAfter?, if_neg (by simp [ended]), read]
  simp [quoted?_nil single fuel ended]

theorem quotedAfter?_break (ended : c.rest = []) : quotedAfter? single fuel (word, joined, c.broken) = none := by
  have other : ¬ c.broken.rest.head? = some (if single then '\'' else '"') := by
    rw [Cursor.rest_broken_nil ended]
    cases single <;> decide
  obtain ⟨wider, d, read, last⟩ := Gap.read?_break none ended (if joined then .breaks [] [] else .none)
  rw [quotedAfter?, if_neg other]
  dsimp only
  rw [read]
  simp [quoted?_nil single fuel last]

/-- Every round between quotes takes something: a gap, or else the escaped break in the word. -/
theorem length_quotedRound_lt (scan : quotedWord? single c.rest.length c = some (word, joined, d))
    (goes_on : d.rest.head? ≠ some (if single then '\'' else '"')) (more : d.rest ≠ [])
    (read : Gap.read? none d.rest.length d (if joined then .breaks [] [] else .none) = some (gap, e)) :
    e.rest.length < c.rest.length := by
  obtain ⟨stretch, split, -, breaks⟩ := quotedWord?_stretch _ _ _ _ _ _ scan
  have behind : c.rest.length = stretch.length + d.rest.length := by rw [split, List.length_append]
  cases joined with
  | true =>
      have some := List.length_pos_of_mem (breaks rfl).2
      have passed := (Gap.rest_read? _ _ _ _ _ _ read).length_le
      omega
  | false =>
      obtain ⟨ch, r, here⟩ := List.exists_cons_of_ne_nil more
      have first : d.rest.head? = some ch := by rw [here, List.head?_cons]
      obtain blank | closes := quotedWord?_stops single _ c d word (Nat.le_refl _) scan ch first
      · have passed := Gap.length_read?_lt _ here blank read
        omega
      · exact absurd (closes ▸ first) goes_on

theorem quotedAfter?_broken (settled : Settled d.rest)
    (next : ∀ (e : Cursor) (gap : Gap), d.rest.head? ≠ some (if single then '\'' else '"') → d.rest ≠ [] →
      Gap.read? none d.rest.length d (if joined then .breaks [] [] else .none) = some (gap, e) → Settled e.rest →
        quoted? single (fuel + 1) e.broken = (quoted? single fuel e).map breakBehind) :
    quotedAfter? single (fuel + 1) (word, joined, d.broken) =
      (quotedAfter? single fuel (word, joined, d)).map breakBehind := by
  by_cases spent : d.rest = []
  · rw [quotedAfter?_break spent, quotedAfter?_nil spent]
    rfl
  have quote : '\n' ≠ if single then '\'' else '"' := by cases single <;> decide
  obtain ⟨same, -⟩ := Gap.read?_broken none d.rest.length d (if joined then .breaks [] [] else .none)
    (Nat.le_refl _) settled spent
  rw [← d.length_broken] at same
  refine rel_map_iff.mp (rel_ite (head?_broken quote d.rest) (fun _ => ?_) fun goes_on => ?_)
  · exact .some (by rw [breakBehind, Cursor.skip_broken spent])
  · refine rel_bind (rel_map_iff.mpr same) ?_
    rintro ⟨wider, e⟩ _ read rfl
    refine rel_bind (rel_map_iff.mpr (next e wider goes_on spent read
      (settled.suffix (Gap.rest_read? _ _ _ _ _ _ read)))) ?_
    rintro ⟨more, f⟩ _ - rfl
    exact .some rfl

end

/-- One round between quotes: a word, and a gap unless the quote closes. -/
theorem quoted?_broken (single : Bool) (fuel : Nat) : ∀ c : Cursor, c.rest.length < fuel → Settled c.rest →
    quoted? single (fuel + 1) c.broken = (quoted? single fuel c).map breakBehind := by
  induction fuel with
  | zero => exact fun c enough => absurd enough (Nat.not_lt_zero _)
  | succ fuel ih =>
      intro c enough settled
      rw [quoted?_succ, quoted?_succ, c.length_broken, Cursor.rest_broken, atDocumentMark_broken,
        Cursor.column_broken]
      by_cases mark : c.column = 0 ∧ atDocumentMark c.rest = true
      · rw [if_pos (Or.inl mark), if_pos (Or.inl mark)]
        rfl
      rw [if_neg (by simp [mark])]
      by_cases ended : c.rest = []
      · have empty : quotedWord? single (c.rest.length + 1) c.broken = some ([], false, c.broken) := by
          rw [quotedWord?_succ, Cursor.rest_broken_nil ended]
          rfl
        rw [if_pos (Or.inr (by simp [ended])), empty, Option.bind_some, quotedAfter?_break ended]
        rfl
      rw [if_neg (by simp [mark, ended])]
      obtain same | ⟨none, x, read, last⟩ := quotedWord?_broken single c.rest.length c (Nat.le_refl _) settled
      · refine rel_map_iff.mp (rel_bind (rel_map_iff.mpr same) ?_)
        rintro ⟨word, joined, d⟩ _ scan rfl
        obtain ⟨stretch, split, -⟩ := quotedWord?_stretch _ _ _ _ _ _ scan
        refine rel_map_iff.mpr (quotedAfter?_broken (settled.suffix ⟨stretch, split.symm⟩) ?_)
        intro e gap goes_on more read settled
        exact ih e (by have := length_quotedRound_lt scan goes_on more read; omega) settled
      · rw [none, read]
        exact quotedAfter?_nil last

/-! ## Block scalars -/

theorem blockHeader?_broken (cs : List Char) : blockHeader? (cs ++ ['\n']) = blockHeader? cs := by
  match cs with
  | [] => rfl
  | [ch] =>
      have no_digit : isDigit '\n' = false := by decide
      simp only [blockHeader?, List.cons_append, List.nil_append]
      cases chomp? ch with
      | some k => simp [no_digit]
      | none =>
          by_cases digit : isDigit ch = true
          · by_cases zero : ch = '0'
            · have is_digit : isDigit '0' = true := by decide
              simp [zero, is_digit]
            · simp [digit, zero, chomp?]
          · simp [digit]
  | ch :: d :: r => rfl

/-- Behind blanks comes more, as the text does not end in one. -/
theorem rest_blanks_ne_nil {c : Cursor} {n : Nat} (settled : Settled c.rest) (some : c.rest ≠ [])
    (within : n ≤ (c.rest.takeWhile (· == ' ')).length) : (c.skipMany n).rest ≠ [] := by
  intro none
  have whole : c.rest.length ≤ n := List.drop_eq_nil_iff.mp none
  have same := (List.takeWhile_prefix (p := (· == ' ')) (l := c.rest)).eq_of_length_le (by omega)
  obtain ⟨ch, last⟩ : ∃ ch, c.rest.getLast? = .some ch := ⟨_, List.getLast?_eq_some_getLast some⟩
  have blank := List.all_takeWhile (p := (· == ' ')) (l := c.rest)
  rw [same, List.all_eq_true] at blank
  have here := blank ch (List.mem_of_getLast? last)
  have other := settled ch last
  rw [beq_iff_eq.mp here] at other
  cases other

def indentation (indent : Option Nat) (c : Cursor) : Nat :=
  match indent with
  | none => (c.rest.takeWhile (· == ' ')).length
  | some i => min (c.rest.takeWhile (· == ' ')).length (i - c.column)

theorem indentation_le (indent : Option Nat) (c : Cursor) :
    indentation indent c ≤ (c.rest.takeWhile (· == ' ')).length := by
  cases indent with
  | none => exact Nat.le_refl _
  | some i => exact Nat.min_le_left _ _

theorem indentation_broken (indent : Option Nat) (c : Cursor) :
    indentation indent c.broken = indentation indent c := by
  simp only [indentation, Cursor.rest_broken, takeWhile_broken (p := (· == ' ')) (by decide), Cursor.column_broken]

theorem emptyLines?_succ (indent : Option Nat) (fuel deepest : Nat) (breaks : List Char) (c d : Cursor)
    (passed : c.skipMany (indentation indent c) = d) :
    emptyLines? indent (fuel + 1) deepest breaks c =
      if (indent.all (fun i => d.column < i) && d.rest.head? = some '\t') = true then none
      else if d.rest.head?.any isBreak = true then
        emptyLines? indent fuel (max deepest d.column) (breaks ++ d.breakText) d.skipBreak
      else some (max deepest d.column, breaks, d) := by
  subst passed
  cases indent <;> rfl

theorem emptyLines?_broken (indent : Option Nat) (fuel : Nat) : ∀ (deepest : Nat) (breaks : List Char) (c : Cursor),
    c.rest.length < fuel → Settled c.rest → c.rest ≠ [] →
      emptyLines? indent (fuel + 1) deepest breaks c.broken =
        (emptyLines? indent fuel deepest breaks c).map (fun x => (x.1, x.2.1, x.2.2.broken)) ∧
      ∀ x, emptyLines? indent fuel deepest breaks c = some x → x.2.2.rest ≠ [] := by
  induction fuel with
  | zero => exact fun _ _ c enough => absurd enough (Nat.not_lt_zero _)
  | succ fuel ih =>
      intro deepest breaks c enough settled some
      have within := indentation_le indent c
      have more := rest_blanks_ne_nil settled some within
      have behind := c.rest_skipMany (indentation indent c)
      have settled' := settled.suffix behind
      have passed : c.broken.skipMany (indentation indent c.broken) =
          (c.skipMany (indentation indent c)).broken := by
        rw [indentation_broken, Cursor.skipMany_broken (Nat.le_trans within (List.takeWhile_prefix _).length_le)]
      rw [emptyLines?_succ indent (fuel + 1) deepest breaks c.broken _ passed,
        emptyLines?_succ indent fuel deepest breaks c _ rfl]
      generalize c.skipMany (indentation indent c) = d at more behind settled' ⊢
      rw [Cursor.rest_broken, head?_front more]
      by_cases tab : (indent.all (fun i => d.column < i) && d.rest.head? = .some '\t') = true
      · rw [if_pos tab]
        exact ⟨if_pos tab, nofun⟩
      have tab' : ¬ (indent.all (fun i => d.broken.column < i) && d.rest.head? = .some '\t') = true := tab
      rw [if_neg tab, if_neg tab']
      by_cases break_ : d.rest.head?.any isBreak = true
      · obtain ⟨b, first, isBreak⟩ : ∃ b, d.rest.head? = .some b ∧ isBreak b = true := by
          simpa [Option.any_eq_true] using break_
        obtain ⟨r, here⟩ := List.head?_eq_some_iff.mp first
        rw [if_pos break_, if_pos break_, Cursor.breakText_broken more, Cursor.skipBreak_broken more settled']
        have shorter := Cursor.length_skipBreak_lt here isBreak
        have passed := behind.length_le
        exact ih _ _ _ (by omega) (settled'.suffix d.rest_skipBreak)
          (Cursor.rest_skipBreak_ne_nil here settled' isBreak)
      · rw [if_neg break_, if_neg break_]
        refine ⟨rfl, fun x same => ?_⟩
        cases same
        exact more

theorem emptyLines?_nil (indent : Option Nat) (fuel deepest : Nat) {c : Cursor} (ended : c.rest = []) :
    ∃ deepest' d, emptyLines? indent (fuel + 1) deepest [] c = some (deepest', [], d) ∧ d.rest = [] := by
  have passed : (c.skipMany (indentation indent c)).rest = [] := by
    rw [Cursor.skipMany, ended]
    exact List.drop_nil
  refine ⟨max deepest (c.skipMany (indentation indent c)).column, _, ?_, passed⟩
  rw [emptyLines?_succ indent fuel deepest [] c _ rfl, if_neg (by simp [passed]), if_neg (by simp [passed])]

theorem blockLines?_nil (literal : Bool) (indent fuel : Nat) (pending empties : List Char) (blankBefore : Bool)
    {c : Cursor} (ended : c.rest = []) :
    blockLines? literal indent (fuel + 1) pending empties blankBefore c = some ⟨[], pending, empties, c⟩ := by
  rw [blockLines?, if_neg (by simp [ended])]

/-- The lines of a block scalar in both texts.  Where they go on to the end, the break belongs to the last
of them. -/
inductive SameLines : BlockLines → BlockLines → Prop
  | before (b : BlockLines) : Settled b.next.rest → SameLines b { b with next := b.next.broken }
  | behind {text : List Char} {c d : Cursor} : c.rest = [] → d.rest = [] →
      SameLines ⟨text, [], [], c⟩ ⟨text, ['\n'], [], d⟩

theorem SameLines.prepend {b b' : BlockLines} (same : SameLines b b') (front : List Char) :
    SameLines { b with text := front ++ b.text } { b' with text := front ++ b'.text } := by
  cases same with
  | before b settled => exact .before { b with text := front ++ b.text } settled
  | behind ended ended' => exact .behind ended ended'

section
variable {literal blankHere : Bool} {indent fuel : Nat} {text : List Char} {c : Cursor}

/-- Behind the last line comes the end, or the break and then the end. -/
theorem linesAfter?_last (ended : c.rest = []) :
    Option.Rel SameLines (linesAfter? literal indent (fuel + 1) blankHere text c)
      (linesAfter? literal indent (fuel + 2) blankHere text c.broken) := by
  have no_break : c.breakText = [] := by simp only [Cursor.breakText, ended]
  have break_ : c.broken.breakText = ['\n'] := by
    simp only [Cursor.breakText, Cursor.rest_broken_nil ended]
    rfl
  obtain ⟨_, d, passed, spent⟩ :=
    emptyLines?_nil (some indent) c.rest.length 0 (Cursor.rest_skipBreak_nil ended)
  obtain ⟨_, d', passed', spent'⟩ := emptyLines?_nil (some indent) c.broken.rest.length 0
    (c := c.broken.skipBreak) (by rw [Cursor.skipBreak_broken_nil ended])
  rw [linesAfter?, linesAfter?, passed, passed', no_break, break_]
  simp only [Option.bind_eq_bind, Option.bind_some]
  rw [blockLines?_nil _ _ _ _ _ _ spent, blockLines?_nil _ _ _ _ _ _ spent']
  exact .some (.behind spent spent')

theorem linesAfter?_broken (settled : Settled c.rest) (at_break : ∀ ch r, c.rest = ch :: r → isBreak ch = true)
    (enough : 0 < fuel)
    (next : ∀ (pending empties : List Char) (d : Cursor), d.rest.length < c.rest.length → Settled d.rest →
      d.rest ≠ [] → Option.Rel SameLines (blockLines? literal indent fuel pending empties blankHere d)
        (blockLines? literal indent (fuel + 1) pending empties blankHere d.broken)) :
    Option.Rel SameLines (linesAfter? literal indent fuel blankHere text c)
      (linesAfter? literal indent (fuel + 1) blankHere text c.broken) := by
  by_cases ended : c.rest = []
  · obtain ⟨n, rfl⟩ := Nat.exists_eq_add_one.mpr enough
    exact linesAfter?_last ended
  obtain ⟨ch, r, here⟩ := List.exists_cons_of_ne_nil ended
  have break_ := at_break ch r here
  have shorter := Cursor.length_skipBreak_lt here break_
  have settled' := settled.suffix c.rest_skipBreak
  obtain ⟨same, left⟩ := emptyLines?_broken (some indent) (c.rest.length + 1) 0 [] c.skipBreak (by omega) settled'
    (Cursor.rest_skipBreak_ne_nil here settled break_)
  rw [linesAfter?, linesAfter?, c.length_broken, Cursor.skipBreak_broken ended settled,
    Cursor.breakText_broken ended]
  refine rel_bind (rel_map_iff.mpr same) ?_
  rintro ⟨_, empties, d⟩ _ empty rfl
  have further := (emptyLines?_passes _ _ _ _ _ _ _ _ empty letterless_nil).1
  refine rel_bind (next c.breakText empties d (Nat.lt_of_le_of_lt further.length_le shorter)
    (settled'.suffix further) (left _ empty)) fun b b' _ same => ?_
  exact .some (same.prepend text)

end

theorem blockLines?_broken (literal : Bool) (indent fuel : Nat) : ∀ (pending empties : List Char)
    (blankBefore : Bool) (c : Cursor), c.rest.length < fuel → Settled c.rest → c.rest ≠ [] →
      Option.Rel SameLines (blockLines? literal indent fuel pending empties blankBefore c)
        (blockLines? literal indent (fuel + 1) pending empties blankBefore c.broken) := by
  induction fuel with
  | zero => exact fun _ _ _ c enough => absurd enough (Nat.not_lt_zero _)
  | succ fuel ih =>
      intro pending empties blankBefore c enough settled some
      have line : (fun ch => !isBreak ch) '\n' = false := rfl
      have behind := c.rest_skipMany (c.rest.takeWhile fun ch => !isBreak ch).length
      have positive := List.length_pos_iff.mpr some
      rw [blockLines?_succ, blockLines?_succ, Cursor.rest_broken, head?_front some, takeWhile_broken line,
        Cursor.skipMany_broken (List.takeWhile_prefix _).length_le]
      refine rel_ite (by simp [some]) (fun _ => ?_) fun _ => .some (.before ⟨[], pending, empties, c⟩ settled)
      refine linesAfter?_broken (settled.suffix behind) (fun _ _ => c.break_behind_line) (by omega) ?_
      exact fun pending empties d shorter => ih pending empties _ d (by have := behind.length_le; omega)

theorem length_blockHeader? {cs : List Char} {k : Chomp} {given : Option Nat} {n : Nat}
    (read : blockHeader? cs = some (k, given, n)) : n ≤ cs.length := by
  have few : n ≤ 2 := by
    simp only [blockHeader?, Option.bind_eq_bind] at read
    grind
  rcases cs with _ | ⟨ch, _ | ⟨b, r⟩⟩
  · cases read
    exact Nat.le_refl _
  · simp only [blockHeader?] at read
    grind
  · simp only [List.length_cons]
    omega

/-- The text is the same, or it goes on to the end and keeps the break. -/
def SameBlock (x y : List Char × Cursor) : Prop :=
  SameRead x y ∨ (y.1 = x.1 ++ ['\n'] ∧ x.2.rest = [] ∧ y.2.rest = [])

theorem sameBlock_of_sameLines {b b' : BlockLines} (same : SameLines b b') (chomp : Chomp) :
    Option.Rel SameBlock (b.ending? chomp) (b'.ending? chomp) := by
  cases same with
  | before b settled => cases chomp <;> exact .some (.inl ⟨rfl, .before _ settled⟩)
  | behind ended ended' =>
      cases chomp with
      | strip => exact .some (.inl ⟨rfl, .behind ended ended'⟩)
      | clip => exact .some (.inr ⟨by simp, ended, ended'⟩)
      | keep => exact .some (.inr ⟨by simp, ended, ended'⟩)

theorem blockBody?_broken (literal : Bool) (parent : Int) (chomp : Chomp) (fixed : Option Nat) {c : Cursor}
    (settled : Settled c.rest) :
    Option.Rel SameBlock (blockBody? literal parent chomp fixed c)
      (blockBody? literal parent chomp fixed c.broken) := by
  refine rel_ite (by rw [Cursor.rest_broken, atBreak_broken]) (fun _ => .none) fun at_break => ?_
  by_cases spent : c.rest = []
  · -- the header ends the text, and there are no lines at all
    obtain ⟨_, d, empty, ended⟩ :=
      emptyLines?_nil fixed c.skipBreak.rest.length 0 (Cursor.rest_skipBreak_nil spent)
    obtain ⟨_, d', empty', ended'⟩ := emptyLines?_nil fixed c.broken.skipBreak.rest.length 0
      (c := c.broken.skipBreak) (by rw [Cursor.skipBreak_broken_nil spent])
    rw [empty, empty']
    simp only [Option.bind_eq_bind, Option.bind_some]
    rw [blockLines?_nil _ _ _ _ _ _ ended, blockLines?_nil _ _ _ _ _ _ ended']
    cases chomp <;> exact .some (.inl ⟨rfl, .behind ended ended'⟩)
  obtain ⟨b, r, here⟩ := List.exists_cons_of_ne_nil spent
  have break_ : isBreak b = true := by simpa [here, atBreak] using at_break
  have settled' := settled.suffix c.rest_skipBreak
  obtain ⟨same, left⟩ := emptyLines?_broken fixed (c.skipBreak.rest.length + 1) 0 [] c.skipBreak
    (Nat.lt_succ_self _) settled' (Cursor.rest_skipBreak_ne_nil here settled break_)
  rw [Cursor.skipBreak_broken spent settled, Cursor.length_broken]
  refine rel_bind (rel_map_iff.mpr same) ?_
  rintro ⟨deepest, empties, d⟩ _ empty rfl
  have further := (emptyLines?_passes _ _ _ _ _ _ _ _ empty letterless_nil).1
  dsimp only
  rw [d.length_broken]
  exact rel_bind (blockLines?_broken literal _ _ [] empties false d (Nat.lt_succ_self _)
    (settled'.suffix further) (left _ empty)) fun b b' _ same => sameBlock_of_sameLines same chomp

theorem block?_broken (literal : Bool) (parent : Int) {c : Cursor} (settled : Settled c.rest) :
    Option.Rel SameBlock (block? literal parent c) (block? literal parent c.broken) := by
  rw [block?_eq, block?_eq, Cursor.rest_broken, blockHeader?_broken]
  cases header : blockHeader? c.rest with
  | none => exact .none
  | some x =>
      have behind := (Cursor.rest_lineEnd (c.skipMany x.2.2) isSpace).trans (c.rest_skipMany x.2.2)
      rw [Option.bind_some, Option.bind_some, Cursor.skipMany_broken (length_blockHeader? header),
        Cursor.lineEnd_broken (by decide)]
      exact blockBody?_broken literal parent _ _ (settled.suffix behind)

end HeatStack.Yaml
