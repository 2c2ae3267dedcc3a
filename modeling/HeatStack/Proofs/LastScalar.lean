import HeatStack.Proofs.NodeSpelling
import HeatStack.Proofs.StyledNumbers
import HeatStack.Proofs.TrailingBreak

/-! # The scalar at the end of a document

Where nothing but the ends of blocks comes behind a scalar token that is not plain, the document
ends in that scalar.  A reading either has the scalar still ahead of it, or has taken it and leaves
ends of blocks only; then what it gives ends in the scalar (`Passes`).  The last entry of a mapping
can lack its value, and then it is the key that ends in the scalar. -/
set_option autoImplicit false
namespace HeatStack.Yaml
open HeatStack.Number HeatStack.Text

/-! ## Nodes -/

/-- A node whose last scalar has this text and is not plain. -/
inductive Node.EndsIn {ref : Type} (text : String) : Node ref → Prop
  | scalar (m : Mark) : EndsIn text (.scalar m false text)
  | item {m : Mark} {n : Node ref} (front : List (Node ref)) :
      EndsIn text n → EndsIn text (.sequence m (front ++ [n]))
  | value {m : Mark} {v : Node ref} (front : List (Node ref × Node ref)) (k : Node ref) :
      EndsIn text v → EndsIn text (.mapping m (front ++ [(k, v)]))
  | key {m : Mark} {k : Node ref} (front : List (Node ref × Node ref)) :
      EndsIn text k → EndsIn text (.mapping m (front ++ [(k, .absent)]))

section
variable {ref : Type} (text : String)

def Node.ItemsEndIn (ns : List (Node ref)) : Prop := ∃ front n, ns = front ++ [n] ∧ n.EndsIn text

/-- The value ends in the scalar, or is left out behind a key that does. -/
def Node.EntryEndsIn (e : Node ref × Node ref) : Prop :=
  e.2.EndsIn text ∨ (e.2 = .absent ∧ e.1.EndsIn text)

def Node.EntriesEndIn (es : List (Node ref × Node ref)) : Prop :=
  ∃ front e, es = front ++ [e] ∧ Node.EntryEndsIn text e

variable {text}

theorem Node.ItemsEndIn.cons {ns : List (Node ref)} (n : Node ref) (h : ItemsEndIn text ns) :
    ItemsEndIn text (n :: ns) := by
  obtain ⟨front, last, rfl, ends⟩ := h
  exact ⟨n :: front, last, rfl, ends⟩

theorem Node.EntriesEndIn.cons {es : List (Node ref × Node ref)} (e : Node ref × Node ref)
    (h : EntriesEndIn text es) : EntriesEndIn text (e :: es) := by
  obtain ⟨front, last, rfl, ends⟩ := h
  exact ⟨e :: front, last, rfl, ends⟩

theorem Node.endsIn_sequence {m : Mark} {ns : List (Node ref)} (h : ItemsEndIn text ns) :
    (sequence m ns).EndsIn text := by
  obtain ⟨front, n, rfl, ends⟩ := h
  exact .item front ends

theorem Node.endsIn_mapping {m : Mark} {es : List (Node ref × Node ref)} (h : EntriesEndIn text es) :
    (mapping m es).EndsIn text := by
  obtain ⟨front, ⟨k, v⟩, rfl, ends | ⟨absent, ends⟩⟩ := h
  · exact .value front k ends
  · change v = .absent at absent
    rw [absent]
    exact .key front ends

end

/-! ## Tokens up to the scalar and behind it -/

/-- Nothing but ends of blocks. -/
def Closing (ts : List Token) : Prop := ∀ t ∈ ts, t = .blockEnd

/-- The scalar is still ahead, and nothing but ends of blocks comes behind it. -/
def Ahead (text : String) (ts : List Token) : Prop :=
  ∃ before ends, Closing ends ∧ ts = before ++ .scalar false text :: ends

/-- A reading that leaves the scalar ahead, or gives something that ends in it. -/
def Passes {α : Type} (text : String) (last : α → Prop) (read : List Token → Option (α × List Token)) : Prop :=
  ∀ ts a rest, Ahead text ts → read ts = some (a, rest) → Ahead text rest ∨ (Closing rest ∧ last a)

variable {text : String} {hs : Handles} {fuel : Nat}

theorem Ahead.cases {t : Token} {ts : List Token} (ahead : Ahead text (t :: ts)) :
    Ahead text ts ∨ (Closing ts ∧ t = .scalar false text) := by
  obtain ⟨before, ends, closing, same⟩ := ahead
  cases before with
  | nil =>
      cases same
      exact .inr ⟨closing, rfl⟩
  | cons other before =>
      cases same
      exact .inl ⟨before, ends, closing, rfl⟩

theorem Ahead.tail {t : Token} {ts : List Token} (ahead : Ahead text (t :: ts))
    (other : t ≠ .scalar false text) : Ahead text ts :=
  ahead.cases.resolve_right fun last => other last.2

theorem Closing.tail {t : Token} {ts : List Token} (closing : Closing (t :: ts)) : Closing ts :=
  fun t member => closing t (List.mem_cons_of_mem _ member)

/-- Tokens that close blocks begin with no other token. -/
theorem Closing.head {t : Token} {ts : List Token} (closing : Closing (t :: ts)) : t = .blockEnd :=
  closing t (List.mem_cons_self ..)

theorem Passes.map {α β : Type} {last : α → Prop} {better : β → Prop}
    {read : List Token → Option (α × List Token)} {f : α → β} {ts rest : List Token} {b : β}
    (h : Passes text last read) (better_of : ∀ a, last a → better (f a)) (ahead : Ahead text ts)
    (scan : (read ts).map (fun r => (f r.1, r.2)) = some (b, rest)) :
    Ahead text rest ∨ (Closing rest ∧ better b) := by
  obtain ⟨⟨a, middle⟩, first, same⟩ := Option.map_eq_some_iff.mp scan
  cases same
  exact (h ts a middle ahead first).imp_right fun ⟨closing, last⟩ => ⟨closing, better_of a last⟩

theorem ahead_mark? {ts rest : List Token} {m : Mark} (ahead : Ahead text ts)
    (read : Node.mark? hs ts = some (m, rest)) : Ahead text rest := by
  unfold Node.mark? at read
  split at read
  · obtain ⟨t, -, same⟩ := Option.map_eq_some_iff.mp read
    cases same
    exact (ahead.tail Token.noConfusion).tail Token.noConfusion
  · obtain ⟨t, -, same⟩ := Option.map_eq_some_iff.mp read
    cases same
    exact (ahead.tail Token.noConfusion).tail Token.noConfusion
  · cases read
    exact ahead.tail Token.noConfusion
  · obtain ⟨t, -, same⟩ := Option.map_eq_some_iff.mp read
    cases same
    exact ahead.tail Token.noConfusion
  · cases read
    exact ahead

theorem ahead_comma? {first : Bool} {ts rest : List Token} (ahead : Ahead text ts)
    (read : Node.comma? first ts = some rest) : Ahead text rest := by
  unfold Node.comma? at read
  split at read
  · split at read <;> cases read
    · exact ahead
    · exact ahead.tail Token.noConfusion
  · split at read <;> cases read
    exact ahead

namespace Node

/-! ## Readings that come behind the scalar -/

section
variable {ts rest : List Token}

theorem read?_closing (closing : Closing ts) (block loose : Bool) (fuel : Nat) :
    read? hs block loose fuel ts = none := by
  cases fuel with
  | zero => rfl
  | succ fuel =>
      cases ts with
      | nil => rfl
      | cons t ts =>
          rw [closing.head]
          rfl

theorem blockItems?_closing {vs : List (Node String)} (closing : Closing ts)
    (scan : blockItems? hs fuel ts = some (vs, rest)) : vs = [] ∧ Closing rest := by
  cases fuel with
  | zero => cases scan
  | succ fuel =>
      cases ts with
      | nil => cases scan
      | cons t ts =>
          rw [closing.head] at scan
          cases scan
          exact ⟨rfl, closing.tail⟩

theorem looseItems?_closing {vs : List (Node String)} (closing : Closing ts)
    (scan : looseItems? hs fuel ts = some (vs, rest)) : vs = [] ∧ Closing rest := by
  cases fuel with
  | zero => cases scan
  | succ fuel =>
      cases ts with
      | nil =>
          cases scan
          exact ⟨rfl, closing⟩
      | cons t ts =>
          cases closing.head
          cases scan
          exact ⟨rfl, closing⟩

theorem blockEntries?_closing {es : List (Node String × Node String)} (closing : Closing ts)
    (scan : blockEntries? hs fuel ts = some (es, rest)) : es = [] ∧ Closing rest := by
  cases fuel with
  | zero => cases scan
  | succ fuel =>
      cases ts with
      | nil => cases scan
      | cons t ts =>
          rw [closing.head] at scan
          cases scan
          exact ⟨rfl, closing.tail⟩

theorem blockValue?_closing {v : Node String} (closing : Closing ts)
    (scan : blockValue? hs fuel ts = some (v, rest)) : v = absent ∧ Closing rest := by
  cases fuel with
  | zero => cases scan
  | succ fuel =>
      cases ts with
      | nil =>
          cases scan
          exact ⟨rfl, closing⟩
      | cons t ts =>
          cases closing.head
          cases scan
          exact ⟨rfl, closing⟩

theorem flowValue?_closing {v : Node String} (closing : Closing ts)
    (scan : flowValue? hs fuel ts = some (v, rest)) : Closing rest := by
  cases fuel with
  | zero => cases scan
  | succ fuel =>
      cases ts with
      | nil =>
          cases scan
          exact closing
      | cons t ts =>
          cases closing.head
          cases scan
          exact closing

theorem comma?_closing {first : Bool} (closing : Closing ts) (scan : comma? first ts = some rest) :
    rest = ts := by
  unfold comma? at scan
  split at scan
  · cases closing.head
  · split at scan <;> cases scan
    rfl

theorem flowItems?_closing (closing : Closing ts) (first : Bool) (fuel : Nat) :
    flowItems? hs first fuel ts = none := by
  cases fuel with
  | zero => rfl
  | succ fuel =>
      unfold flowItems?
      split
      · next zero => cases zero
      · cases closing.head
      · next same _ =>
          cases same
          refine Option.bind_eq_none_iff.mpr fun rest separated => ?_
          cases comma?_closing closing separated
          split
          · cases closing.head
          · cases closing.head
          · rw [read?_closing closing]
            rfl

theorem flowEntries?_closing (closing : Closing ts) (first : Bool) (fuel : Nat) :
    flowEntries? hs first fuel ts = none := by
  cases fuel with
  | zero => rfl
  | succ fuel =>
      unfold flowEntries?
      split
      · next zero => cases zero
      · cases closing.head
      · next same _ =>
          cases same
          refine Option.bind_eq_none_iff.mpr fun rest separated => ?_
          cases comma?_closing closing separated
          split
          · cases closing.head
          · cases closing.head
          · rw [read?_closing closing]
            rfl

end

/-! ## Readings with the scalar ahead -/

/-- What the readings of one fuel pass on, one for each part of a document.  Brackets are closed
behind the scalar within them, so no collection in brackets ends in it. -/
structure ReadsLast (text : String) (hs : Handles) (fuel : Nat) : Prop where
  read : ∀ block loose, Passes text (EndsIn text) (read? hs block loose fuel)
  blockItems : Passes text (ItemsEndIn text) (blockItems? hs fuel)
  looseItems : Passes text (ItemsEndIn text) (looseItems? hs fuel)
  blockEntries : Passes text (EntriesEndIn text) (blockEntries? hs fuel)
  blockValue : Passes text (EndsIn text) (blockValue? hs fuel)
  flowItems : ∀ first, Passes text (fun _ => False) (flowItems? hs first fuel)
  flowPair : Passes text (fun _ => True) (flowPair? hs fuel)
  flowEntries : ∀ first, Passes text (fun _ => False) (flowEntries? hs first fuel)
  flowValue : Passes text (EndsIn text) (flowValue? hs fuel)

theorem passes_read? (ih : ReadsLast text hs fuel) (block loose : Bool) :
    Passes text (EndsIn text) (read? hs block loose (fuel + 1)) := by
  intro ts n rest ahead scan
  unfold read? at scan
  split at scan
  · cases scan
  · cases scan
    exact .inl (ahead.tail Token.noConfusion)
  · next same _ =>
    cases same
    obtain ⟨⟨m, ts⟩, marked, scan⟩ := Option.bind_eq_some_iff.mp scan
    have ahead := ahead_mark? ahead marked
    have bare : ∀ ts : List Token, Ahead text ts →
        (if m = .none then none else some (.scalar m true "", ts)) = some (n, rest) →
        Ahead text rest ∨ (Closing rest ∧ n.EndsIn text) := by
      intro ts ahead scan
      split at scan <;> cases scan
      exact .inl ahead
    dsimp only at scan
    split at scan
    · split at scan
      · exact ih.looseItems.map (fun _ => endsIn_sequence) ahead scan
      · exact bare _ ahead scan
    · cases scan
      refine ahead.cases.imp_right fun last => ⟨last.1, ?_⟩
      cases last.2
      exact .scalar m
    · exact (ih.flowItems true).map (fun _ => False.elim) (ahead.tail Token.noConfusion) scan
    · exact (ih.flowEntries true).map (fun _ => False.elim) (ahead.tail Token.noConfusion) scan
    · split at scan
      · exact ih.blockItems.map (fun _ => endsIn_sequence) (ahead.tail Token.noConfusion) scan
      · exact bare _ ahead scan
    · split at scan
      · exact ih.blockEntries.map (fun _ => endsIn_mapping) (ahead.tail Token.noConfusion) scan
      · exact bare _ ahead scan
    · exact bare _ ahead scan

/-- A part that may be left out before the rest is read. -/
theorem passes_part {α : Type} {ends : Bool} {left : List Token}
    {read : List Token → Option (Node String × List Token)}
    {more : Node String × List Token → Option α} {ts : List Token} {a : α}
    (h : Passes text (EndsIn text) read) (ahead : Ahead text ts) (aheadLeft : ends = true → Ahead text left)
    (scan : (if ends = true then more (absent, left) else (read ts).bind more) = some a) :
    ∃ n rest, (Ahead text rest ∨ (Closing rest ∧ n.EndsIn text)) ∧ more (n, rest) = some a := by
  cases ends with
  | true => exact ⟨absent, left, .inl (aheadLeft rfl), scan⟩
  | false =>
      obtain ⟨⟨n, rest⟩, first, scan⟩ := Option.bind_eq_some_iff.mp scan
      exact ⟨n, rest, h ts n rest ahead first, scan⟩

theorem passes_blockItems? (ih : ReadsLast text hs fuel) :
    Passes text (ItemsEndIn text) (blockItems? hs (fuel + 1)) := by
  intro ts vs rest ahead scan
  unfold blockItems? at scan
  split at scan
  · cases scan
  · next same =>
    cases same
    dsimp only at scan
    have left := ahead.tail Token.noConfusion
    obtain ⟨n, ts, first, scan⟩ := passes_part (ih.read true false) left (fun _ => left) scan
    obtain ⟨⟨ns, ts⟩, others, scan⟩ := Option.bind_eq_some_iff.mp scan
    cases scan
    obtain ahead | ⟨closing, last⟩ := first
    · exact (ih.blockItems _ _ _ ahead others).imp_right fun ⟨closing, last⟩ => ⟨closing, last.cons n⟩
    · obtain ⟨rfl, closing⟩ := blockItems?_closing closing others
      exact .inr ⟨closing, [], n, rfl, last⟩
  · cases scan
    exact .inl (ahead.tail Token.noConfusion)
  · cases scan

theorem passes_looseItems? (ih : ReadsLast text hs fuel) :
    Passes text (ItemsEndIn text) (looseItems? hs (fuel + 1)) := by
  intro ts vs rest ahead scan
  unfold looseItems? at scan
  split at scan
  · cases scan
  · next same =>
    cases same
    dsimp only at scan
    have left := ahead.tail Token.noConfusion
    obtain ⟨n, ts, first, scan⟩ := passes_part (ih.read true false) left (fun _ => left) scan
    obtain ⟨⟨ns, ts⟩, others, scan⟩ := Option.bind_eq_some_iff.mp scan
    cases scan
    obtain ahead | ⟨closing, last⟩ := first
    · exact (ih.looseItems _ _ _ ahead others).imp_right fun ⟨closing, last⟩ => ⟨closing, last.cons n⟩
    · obtain ⟨rfl, closing⟩ := looseItems?_closing closing others
      exact .inr ⟨closing, [], n, rfl, last⟩
  · cases scan
    exact .inl ahead

theorem passes_blockValue? (ih : ReadsLast text hs fuel) :
    Passes text (EndsIn text) (blockValue? hs (fuel + 1)) := by
  intro ts n rest ahead scan
  unfold blockValue? at scan
  split at scan
  · cases scan
  · next same =>
    cases same
    split at scan
    · cases scan
      exact .inl (ahead.tail Token.noConfusion)
    · exact ih.read true true _ _ _ (ahead.tail Token.noConfusion) scan
  · cases scan
    exact .inl ahead

theorem passes_blockEntries? (ih : ReadsLast text hs fuel) :
    Passes text (EntriesEndIn text) (blockEntries? hs (fuel + 1)) := by
  intro ts es rest ahead scan
  unfold blockEntries? at scan
  split at scan
  · cases scan
  · next same =>
    cases same
    dsimp only at scan
    have left := ahead.tail Token.noConfusion
    obtain ⟨k, ts, key, scan⟩ := passes_part (ih.read true true) left (fun _ => left) scan
    obtain ⟨⟨v, ts'⟩, second, scan⟩ := Option.bind_eq_some_iff.mp scan
    obtain ⟨⟨more, ts''⟩, others, scan⟩ := Option.bind_eq_some_iff.mp scan
    cases scan
    -- the scalar is behind the entry, or in its value, or in its key with the value left out
    have entry : Ahead text ts' ∨ (Closing ts' ∧ EntryEndsIn text (k, v)) := by
      obtain ahead | ⟨closing, last⟩ := key
      · exact (ih.blockValue _ _ _ ahead second).imp_right fun ⟨closing, last⟩ => ⟨closing, .inl last⟩
      · obtain ⟨missing, closing⟩ := blockValue?_closing closing second
        exact .inr ⟨closing, .inr ⟨missing, last⟩⟩
    obtain ahead | ⟨closing, last⟩ := entry
    · exact (ih.blockEntries _ _ _ ahead others).imp_right fun ⟨closing, last⟩ => ⟨closing, last.cons _⟩
    · obtain ⟨rfl, closing⟩ := blockEntries?_closing closing others
      exact .inr ⟨closing, [], (k, v), rfl, last⟩
  · cases scan
    exact .inl (ahead.tail Token.noConfusion)
  · cases scan

/-- A collection in brackets is read to its end only where the scalar is still ahead. -/
theorem ahead_of_flow {α : Type} {P : Prop} {ts rest : List Token} {a : α}
    {read : List Token → Option (α × List Token)} (part : Ahead text ts ∨ (Closing ts ∧ P))
    (h : Passes text (fun _ => False) read) (stuck : Closing ts → read ts = none)
    (scan : read ts = some (a, rest)) : Ahead text rest := by
  obtain ahead | ⟨closing, -⟩ := part
  · exact (h _ _ _ ahead scan).resolve_right fun last => last.2
  · rw [stuck closing] at scan
    cases scan

theorem passes_flowItems? (ih : ReadsLast text hs fuel) (first : Bool) :
    Passes text (fun _ => False) (flowItems? hs first (fuel + 1)) := by
  intro ts vs rest ahead scan
  unfold flowItems? at scan
  split at scan
  · cases scan
  · cases scan
    exact .inl (ahead.tail Token.noConfusion)
  · next same _ =>
    cases same
    obtain ⟨ts, separated, scan⟩ := Option.bind_eq_some_iff.mp scan
    have ahead := ahead_comma? ahead separated
    split at scan
    · cases scan
      exact .inl (ahead.tail Token.noConfusion)
    · obtain ⟨⟨e, ts⟩, pair, scan⟩ := Option.bind_eq_some_iff.mp scan
      obtain ⟨⟨ns, ts⟩, others, scan⟩ := Option.bind_eq_some_iff.mp scan
      cases scan
      exact .inl (ahead_of_flow (ih.flowPair _ _ _ (ahead.tail Token.noConfusion) pair) (ih.flowItems false)
        (fun closing => flowItems?_closing closing false fuel) others)
    · obtain ⟨⟨n, ts⟩, item, scan⟩ := Option.bind_eq_some_iff.mp scan
      obtain ⟨⟨ns, ts⟩, others, scan⟩ := Option.bind_eq_some_iff.mp scan
      cases scan
      exact .inl (ahead_of_flow (ih.read false false _ _ _ ahead item) (ih.flowItems false)
        (fun closing => flowItems?_closing closing false fuel) others)

theorem passes_flowPair? (ih : ReadsLast text hs fuel) :
    Passes text (fun _ => True) (flowPair? hs (fuel + 1)) := by
  intro ts e rest ahead scan
  unfold flowPair? at scan
  dsimp only at scan
  have passed : endsFlowPair ts = true → Ahead text ts.tail := by
    intro ends
    unfold endsFlowPair at ends
    split at ends
    · exact ahead.tail Token.noConfusion
    · exact ahead.tail Token.noConfusion
    · exact ahead.tail Token.noConfusion
    · cases ends
  obtain ⟨k, ts, key, scan⟩ := passes_part (ih.read false false) ahead passed scan
  dsimp only at scan
  obtain ahead | ⟨closing, -⟩ := key
  · split at scan
    · split at scan
      · cases scan
        exact .inl (ahead.tail Token.noConfusion)
      · obtain ⟨⟨v, ts⟩, second, same⟩ := Option.map_eq_some_iff.mp scan
        cases same
        exact (ih.read false false _ _ _ (ahead.tail Token.noConfusion) second).imp_right fun last => ⟨last.1, trivial⟩
    · cases scan
      exact .inl ahead
  · split at scan
    · cases closing.head
    · cases scan
      exact .inr ⟨closing, trivial⟩

theorem passes_flowValue? (ih : ReadsLast text hs fuel) :
    Passes text (EndsIn text) (flowValue? hs (fuel + 1)) := by
  intro ts n rest ahead scan
  unfold flowValue? at scan
  split at scan
  · cases scan
  · next same =>
    cases same
    split at scan
    · cases scan
      exact .inl (ahead.tail Token.noConfusion)
    · exact ih.read false false _ _ _ (ahead.tail Token.noConfusion) scan
  · cases scan
    exact .inl ahead

theorem passes_flowEntries? (ih : ReadsLast text hs fuel) (first : Bool) :
    Passes text (fun _ => False) (flowEntries? hs first (fuel + 1)) := by
  intro ts es rest ahead scan
  unfold flowEntries? at scan
  split at scan
  · cases scan
  · cases scan
    exact .inl (ahead.tail Token.noConfusion)
  · next same _ =>
    cases same
    obtain ⟨ts, separated, scan⟩ := Option.bind_eq_some_iff.mp scan
    have ahead := ahead_comma? ahead separated
    split at scan
    · cases scan
      exact .inl (ahead.tail Token.noConfusion)
    · dsimp only at scan
      have left := ahead.tail Token.noConfusion
      obtain ⟨k, ts, key, scan⟩ := passes_part (ih.read false false) left (fun _ => left) scan
      obtain ⟨⟨v, ts'⟩, second, scan⟩ := Option.bind_eq_some_iff.mp scan
      obtain ⟨⟨more, ts''⟩, others, scan⟩ := Option.bind_eq_some_iff.mp scan
      cases scan
      have entry : Ahead text ts' ∨ (Closing ts' ∧ True) := by
        obtain ahead | ⟨closing, -⟩ := key
        · exact (ih.flowValue _ _ _ ahead second).imp_right fun last => ⟨last.1, trivial⟩
        · exact .inr ⟨flowValue?_closing closing second, trivial⟩
      exact .inl (ahead_of_flow entry (ih.flowEntries false)
        (fun closing => flowEntries?_closing closing false fuel) others)
    · obtain ⟨⟨k, ts⟩, item, scan⟩ := Option.bind_eq_some_iff.mp scan
      obtain ⟨⟨more, ts'⟩, others, scan⟩ := Option.bind_eq_some_iff.mp scan
      cases scan
      exact .inl (ahead_of_flow (ih.read false false _ _ _ ahead item) (ih.flowEntries false)
        (fun closing => flowEntries?_closing closing false fuel) others)

theorem readsLast (text : String) (hs : Handles) (fuel : Nat) : ReadsLast text hs fuel := by
  induction fuel with
  | zero => constructor <;> intros <;> intro _ _ _ _ scan <;> cases scan
  | succ fuel ih =>
      exact {
        read := passes_read? ih
        blockItems := passes_blockItems? ih
        looseItems := passes_looseItems? ih
        blockEntries := passes_blockEntries? ih
        blockValue := passes_blockValue? ih
        flowItems := passes_flowItems? ih
        flowPair := passes_flowPair? ih
        flowEntries := passes_flowEntries? ih
        flowValue := passes_flowValue? ih }

end Node

theorem ahead_directives? : ∀ (ts : List Token) (seen : Bool) (hs hs' : Handles) (rest : List Token),
    Ahead text ts → directives? seen hs ts = some (hs', rest) → Ahead text rest := by
  intro ts
  induction ts with
  | nil =>
      intro seen hs hs' rest ahead read
      cases read
      exact ahead
  | cons t ts ih =>
      intro seen hs hs' rest ahead read
      unfold directives? at read
      split at read
      · next same =>
        cases same
        split at read
        · cases read
        · exact ih _ _ _ _ (ahead.tail Token.noConfusion) read
      · next same =>
        cases same
        split at read
        · cases read
        · exact ih _ _ _ _ (ahead.tail Token.noConfusion) read
      · cases read
        exact ahead

/-- Only marks of the document's end may stand behind the root, so the scalar cannot. -/
theorem not_ahead_of_onlyEndMarks {ts : List Token} (ended : onlyEndMarks ts = true) : ¬ Ahead text ts := by
  intro ahead
  obtain ⟨before, ends, -, rfl⟩ := ahead
  have mark := List.all_eq_true.mp ended (.scalar false text) (by simp)
  cases mark

theorem endsIn_root? {ts : List Token} {root : Option (Node String)} (ahead : Ahead text ts)
    (read : root? ts = some root) : ∃ n, root = some n ∧ n.EndsIn text := by
  have finish : ∀ (m : Node String) (rest : List Token),
      Ahead text rest ∨ (Closing rest ∧ m.EndsIn text) →
      (if onlyEndMarks rest then some (some m) else none) = some root →
      ∃ n, root = some n ∧ n.EndsIn text := by
    intro m rest passed same
    split at same
    · next ended =>
        cases same
        exact ⟨m, rfl, (passed.resolve_left (not_ahead_of_onlyEndMarks ended)).2⟩
    · cases same
  unfold root? at read
  dsimp only at read
  split at read
  · obtain ⟨before, ends, -, same⟩ := ahead
    simp at same
  · obtain read | read := or_of_ite read
    · obtain ⟨⟨hs, ts⟩, directives, read⟩ := Option.bind_eq_some_iff.mp read
      have ahead := ahead_directives? _ _ _ _ _ ahead directives
      dsimp only at read
      split at read
      · split at read
        · exact finish _ _ (.inl (ahead.tail Token.noConfusion)) read
        · obtain ⟨⟨m, rest⟩, node, read⟩ := Option.bind_eq_some_iff.mp read
          exact finish m rest ((Node.readsLast _ _ _).read _ _ _ _ _ (ahead.tail Token.noConfusion) node) read
      · cases read
    · obtain ⟨⟨m, rest⟩, node, read⟩ := Option.bind_eq_some_iff.mp read
      exact finish m rest ((Node.readsLast _ _ _).read _ _ _ _ _ ahead node) read

/-! ## Anchors -/

namespace Node

theorem bindItems?_append {n : Node String} : ∀ (front : List (Node String)) (a a' : Anchors)
    (ns : List (Node Nat)), bindItems? a (front ++ [n]) = some (ns, a') →
      ∃ front' n' b, ns = front' ++ [n'] ∧ bind? b n = some (n', a') := by
  intro front
  induction front with
  | nil =>
      intro a a' ns bound
      rw [List.nil_append, bindItems?] at bound
      obtain ⟨⟨n', b⟩, last, bound⟩ := Option.bind_eq_some_iff.mp bound
      cases bound
      exact ⟨[], n', a, rfl, last⟩
  | cons m front ih =>
      intro a a' ns bound
      rw [List.cons_append, bindItems?] at bound
      obtain ⟨⟨m', b⟩, -, bound⟩ := Option.bind_eq_some_iff.mp bound
      obtain ⟨⟨rest, c⟩, others, same⟩ := Option.bind_eq_some_iff.mp bound
      cases same
      obtain ⟨front', n', b', rfl, last⟩ := ih _ _ _ others
      exact ⟨m' :: front', n', b', rfl, last⟩

theorem bindEntries?_append {k v : Node String} : ∀ (front : List (Node String × Node String))
    (a a' : Anchors) (es : List (Node Nat × Node Nat)), bindEntries? a (front ++ [(k, v)]) = some (es, a') →
      ∃ front' k' v' b c, es = front' ++ [(k', v')] ∧ bind? b k = some (k', c) ∧ bind? c v = some (v', a') := by
  intro front
  induction front with
  | nil =>
      intro a a' es bound
      rw [List.nil_append, bindEntries?] at bound
      obtain ⟨⟨k', b⟩, key, bound⟩ := Option.bind_eq_some_iff.mp bound
      obtain ⟨⟨v', c⟩, value, bound⟩ := Option.bind_eq_some_iff.mp bound
      cases bound
      exact ⟨[], k', v', a, b, rfl, key, value⟩
  | cons e front ih =>
      intro a a' es bound
      rw [List.cons_append, bindEntries?] at bound
      obtain ⟨⟨k', b⟩, -, bound⟩ := Option.bind_eq_some_iff.mp bound
      obtain ⟨⟨v', c⟩, -, bound⟩ := Option.bind_eq_some_iff.mp bound
      obtain ⟨⟨rest, d⟩, others, same⟩ := Option.bind_eq_some_iff.mp bound
      cases same
      obtain ⟨front', k'', v'', b', c', rfl, key, value⟩ := ih _ _ _ others
      exact ⟨(k', v') :: front', k'', v'', b', c', rfl, key, value⟩

/-- Binding the aliases of a node leaves its last scalar. -/
theorem EndsIn.bind? {n : Node String} (ends : n.EndsIn text) : ∀ {a a' : Anchors} {n' : Node Nat},
    Node.bind? a n = some (n', a') → n'.EndsIn text := by
  induction ends with
  | scalar m =>
      intro a a' n' bound
      rw [Node.bind?] at bound
      cases bound
      exact .scalar m
  | item front _ ih =>
      intro a a' n' bound
      rw [Node.bind?] at bound
      obtain ⟨⟨ns, b⟩, parts, same⟩ := Option.bind_eq_some_iff.mp bound
      cases same
      obtain ⟨front', n', b', rfl, last⟩ := bindItems?_append _ _ _ _ parts
      exact .item front' (ih last)
  | value front k _ ih =>
      intro a a' n' bound
      rw [Node.bind?] at bound
      obtain ⟨⟨es, b⟩, parts, same⟩ := Option.bind_eq_some_iff.mp bound
      cases same
      obtain ⟨front', k', v', b', c', rfl, -, value⟩ := bindEntries?_append _ _ _ _ parts
      exact .value front' k' (ih value)
  | key front _ ih =>
      intro a a' n' bound
      rw [Node.bind?] at bound
      obtain ⟨⟨es, b⟩, parts, same⟩ := Option.bind_eq_some_iff.mp bound
      cases same
      obtain ⟨front', k', v', b', c', rfl, key, value⟩ := bindEntries?_append _ _ _ _ parts
      cases value
      exact .key front' (ih key)

end Node

/-! ## Texts that end in a line feed

They are no numbers, no booleans and no words for null. -/

def EndsInFeed (cs : List Char) : Prop := cs.getLast? = some '\n'

theorem EndsInFeed.tail {c : Char} {r : List Char} (h : EndsInFeed (c :: r)) (other : c ≠ '\n') : EndsInFeed r := by
  cases r with
  | nil => exact absurd (Option.some.inj h) other
  | cons d r => exact (List.getLast?_cons_cons ..).symm.trans h

theorem EndsInFeed.mem {cs : List Char} (h : EndsInFeed cs) : '\n' ∈ cs := List.mem_of_getLast? h

theorem EndsInFeed.dropWhile {p : Char → Bool} (stop : p '\n' = false) : ∀ {cs : List Char},
    EndsInFeed cs → EndsInFeed (cs.dropWhile p) := by
  intro cs
  induction cs with
  | nil => exact fun h => h
  | cons c r ih =>
      intro h
      rw [List.dropWhile_cons]
      split
      · next passed =>
          refine ih (h.tail fun same => ?_)
          rw [same, stop] at passed
          cases passed
      · exact h

/-- Such a text differs from every word with another last character. -/
theorem EndsInFeed.ofList_ne {cs : List Char} (h : EndsInFeed cs) {w : String}
    (other : w.toList.getLast? ≠ some '\n') : String.ofList cs ≠ w := by
  intro same
  rw [← same, String.toList_ofList] at other
  exact other h

namespace Scalar

theorem digits?_feed {base : Nat} {cs : List Char} (h : EndsInFeed cs) : digits? base cs = none := by
  unfold digits?
  split
  · rfl
  · obtain ⟨ds, rfl⟩ := List.getLast?_eq_some_iff.mp h
    exact numeral?_break base ds

theorem based?_feed {cs : List Char} (h : EndsInFeed cs) : based? cs = none := by
  unfold based?
  split
  · next m r =>
      refine Option.bind_eq_none_iff.mpr fun b known => digits?_feed ?_
      refine (h.tail (by decide)).tail fun same => ?_
      rw [same] at known
      cases known
  · rfl

theorem natural?_feed {cs : List Char} (h : EndsInFeed cs) : natural? cs = none := by
  unfold natural?
  split
  · have h := h.tail (by decide)
    dsimp only
    rw [based?_feed h]
    dsimp only
    rw [digits?_feed h, ite_self]
  · dsimp only
    rw [based?_feed h]
    dsimp only
    rw [digits?_feed h, ite_self]

theorem integer?_feed {cs : List Char} (h : EndsInFeed cs) : integer? cs = none := by
  have negative : negated? cs = none := by
    unfold negated?
    split
    · have h := h.tail (by decide)
      rw [based?_feed h]
      dsimp only
      rw [digits?_feed h, ite_self]
    · rfl
  rw [integer?, natural?_feed h, negative]
  rfl

end Scalar

theorem EndsInFeed.unsigned {cs ds : List Char} {negative : Bool}
    (signed : (match cs with
      | '-' :: ds => (true, ds)
      | '+' :: ds => (false, ds)
      | ds => (false, ds)) = (negative, ds)) (h : EndsInFeed cs) : EndsInFeed ds := by
  split at signed <;> cases signed
  · exact h.tail (by decide)
  · exact h.tail (by decide)
  · exact h

theorem parseExponent?_feed {cs : List Char} (h : EndsInFeed cs) : Decimal.parseExponent? cs = none := by
  unfold Decimal.parseExponent?
  split
  · next signed =>
      have feed := EndsInFeed.unsigned signed h
      rw [List.all_eq_false.mpr ⟨'\n', feed.mem, by decide⟩, Bool.not_false, Bool.or_true, if_pos rfl]

theorem parseUnsigned?_feed {cs : List Char} (h : EndsInFeed cs) (negative : Bool) :
    Decimal.parseUnsigned? negative cs = none := by
  have rest : EndsInFeed (Decimal.pointed (cs.dropWhile isDigit)).2 := by
    have behind := h.dropWhile (p := isDigit) (by decide)
    unfold Decimal.pointed
    split
    · next same =>
        rw [same] at behind
        exact (behind.tail (by decide)).dropWhile (by decide)
    · exact behind
  have unended : Decimal.ending? (Decimal.pointed (cs.dropWhile isDigit)).2 = none := by
    unfold Decimal.ending?
    split
    · next same =>
        rw [same] at rest
        cases rest
    · next same =>
        rw [same] at rest
        split
        · next mark =>
            refine parseExponent?_feed (rest.tail fun same => ?_)
            subst same
            revert mark
            decide
        · rfl
  rw [Decimal.parseUnsigned?_eq, unended, Option.map_none, ite_self]

theorem binary64_parse?_feed {cs : List Char} (h : EndsInFeed cs) : Binary64.parse? cs = none := by
  unfold Binary64.parse?
  split
  next signed =>
    have feed := EndsInFeed.unsigned signed h
    have lower : EndsInFeed (List.map lowerChar _) :=
      (List.getLast?_map ..).trans (congrArg (Option.map lowerChar) feed)
    have word : ∀ w : String, w.toList.getLast? ≠ some '\n' → String.ofList (List.map lowerChar _) ≠ w :=
      fun w other => lower.ofList_ne other
    rw [if_neg, if_neg, parseUnsigned?_feed feed]
    · rfl
    · exact word "nan" (by decide)
    · intro same
      exact same.elim (word "inf" (by decide)) (word "infinity" (by decide))

namespace Scalar

/-- No word of a list that is without line feeds at the ends. -/
theorem not_contains_feed {s : String} (h : EndsInFeed s.toList) {words : List String}
    (other : ∀ w ∈ words, w.toList.getLast? ≠ some '\n') : words.contains s = false := by
  refine Bool.eq_false_iff.mpr fun inside => ?_
  exact other s (List.contains_iff_mem.mp inside) h

theorem float?_feed {cs : List Char} (h : EndsInFeed cs) : float? cs = none := by
  have words : ∀ (ds : List Char) (words : List String), EndsInFeed ds →
      (∀ w ∈ words, w.toList.getLast? ≠ some '\n') → ¬ words.contains (String.ofList ds) = true := by
    intro ds words h other inside
    rw [not_contains_feed (by rwa [String.toList_ofList]) other] at inside
    cases inside
  have unsigned : ∀ positive, EndsInFeed positive →
      (if cs.head? = some '+' ∧ startsSigned positive then none
      else if [".inf", ".Inf", ".INF"].contains (String.ofList positive) then some (.infinity false)
      else if ["-.inf", "-.Inf", "-.INF"].contains (String.ofList cs) then some (.infinity true)
      else if [".nan", ".NaN", ".NAN"].contains (String.ofList cs) then some .nan
      else (Binary64.parse? positive).filter Binary64.isFinite) = none := by
    intro positive feed
    rw [if_neg (words _ _ feed (by decide)), if_neg (words _ _ h (by decide)),
      if_neg (words _ _ h (by decide)), binary64_parse?_feed feed]
    exact ite_self _
  unfold float?
  split
  · exact unsigned _ (h.tail (by decide))
  · exact unsigned _ h

/-- A scalar token that is not plain means its text, under every tag, if that ends in a line feed. -/
theorem value?_feed {tag : Option String} {s : String} {v : Value} (h : EndsInFeed s.toList)
    (read : value? tag false s = some v) : v = .string s := by
  have words : ∀ words : List String, (∀ w ∈ words, w.toList.getLast? ≠ some '\n') →
      ¬ words.contains s = true := by
    intro words other
    rw [not_contains_feed h other]
    exact Bool.false_ne_true
  unfold value? at read
  split at read
  · unfold forced? at read
    split at read
    · rw [bool?, if_neg (words _ (by decide)), if_neg (words _ (by decide))] at read
      cases read
    split at read
    · rw [integerValue?, integer?_feed h] at read
      cases read
    split at read
    · rw [float?_feed h] at read
      cases read
    split at read
    · rw [isNullWord, if_neg (words _ (by decide))] at read
      cases read
    · cases read
      rfl
  · cases read
    rfl

end Scalar

/-! ## Values -/

/-- A value whose last scalar is this text, where nulls that end a mapping do not count. -/
inductive Value.LastText (s : String) : Value → Prop
  | string : LastText s (.string s)
  | tagged {v : Value} (t : String) : LastText s v → LastText s (.tagged t v)
  | item {v : Value} (front : List Value) : LastText s v → LastText s (.sequence (front ++ [v]))
  | value {v : Value} (front : List (Value × Value)) (k : Value) :
      LastText s v → LastText s (.mapping (front ++ [(k, v)]))
  | key {k : Value} (front : List (Value × Value)) :
      LastText s k → LastText s (.mapping (front ++ [(k, .null)]))

/-- Some run of the reading gives the value. -/
def Budget.Gives {α : Type} (x : Budget α) (a : α) : Prop :=
  ∃ before after, StateT.run x before = some (a, after)

theorem Admission.lastText_tagged {a : Admission} {m : Mark} {v w : Value} (given : (a.tagged m v).Gives w)
    (last : v.LastText text) : w.LastText text := by
  obtain ⟨before, after, run⟩ := given
  unfold tagged at run
  split at run
  · split at run <;> cases run
    exact .tagged _ last
  · cases run
    exact last

theorem Admission.lastText_scalar {a : Admission} {m : Mark} {v : Value} (feed : EndsInFeed text.toList)
    (given : (a.scalar m false text).Gives v) : v.LastText text := by
  unfold scalar at given
  split at given
  · obtain ⟨w, scalar, tagged⟩ := traceable_budget.bind given
    obtain ⟨before, after, run⟩ := scalar
    cases run
    exact lastText_tagged tagged .string
  · obtain ⟨before, after, run⟩ := given
    obtain ⟨w, read, same⟩ := Option.bind_eq_some_iff.mp run
    cases same
    rw [Scalar.value?_feed feed read]
    exact .string

namespace Document
variable {d : Document} {a : Admission}

theorem gives_append {α β : Type} {f : α → Budget β} {front : List α} {x : α} {ys : List β}
    (given : ((front ++ [x]).mapM f).Gives ys) : ∃ front' y, ys = front' ++ [y] ∧ (f x).Gives y := by
  rw [List.mapM_append] at given
  obtain ⟨front', -, given⟩ := traceable_budget.bind given
  obtain ⟨last, single, given⟩ := traceable_budget.bind given
  rw [traceable_budget.pure given]
  rw [List.mapM_cons] at single
  obtain ⟨y, given, single⟩ := traceable_budget.bind single
  rw [List.mapM_nil, pure_bind] at single
  rw [traceable_budget.pure single]
  exact ⟨front', y, rfl, given⟩

theorem read_absent {room : Nat} {v : Value} (given : (d.read a room .absent).Gives v) : v = .null := by
  obtain ⟨before, after, run⟩ := given
  cases room <;> cases run <;> rfl

theorem gives_sequence {room : Nat} {m : Mark} {ns : List (Node Nat)} {v : Value}
    (given : (d.read a (room + 1) (.sequence m ns)).Gives v) :
    ∃ vs, (ns.mapM (d.read a room)).Gives vs ∧ (a.tagged m (.sequence vs)).Gives v := by
  obtain ⟨n, followed, given⟩ := traceable_budget.bind given
  rw [traceable_budget.pure followed] at given
  exact traceable_budget.bind given

theorem gives_mapping {room : Nat} {m : Mark} {entries : List (Node Nat × Node Nat)} {v : Value}
    (given : (d.read a (room + 1) (.mapping m entries)).Gives v) :
    ∃ es, (entries.mapM fun (k, v) => do
        let k ← d.read a room k
        let v ← d.read a room v
        return (k, v)).Gives es ∧ (a.tagged m (.mapping es)).Gives v := by
  obtain ⟨n, followed, given⟩ := traceable_budget.bind given
  rw [traceable_budget.pure followed] at given
  obtain ⟨es, read, given⟩ := traceable_budget.bind given
  refine ⟨es, read, ?_⟩
  split at given
  · exact given
  · obtain ⟨before, after, run⟩ := given
    cases run

theorem gives_entries {room : Nat} {front : List (Node Nat × Node Nat)} {k v : Node Nat}
    {es : List (Value × Value)}
    (given : ((front ++ [(k, v)]).mapM fun (k, v) => do
        let k ← d.read a room k
        let v ← d.read a room v
        return (k, v)).Gives es) :
    ∃ front' k' v', es = front' ++ [(k', v')] ∧ (d.read a room k).Gives k' ∧ (d.read a room v).Gives v' := by
  obtain ⟨front', e, rfl, entry⟩ := gives_append given
  obtain ⟨k', key, entry⟩ := traceable_budget.bind entry
  obtain ⟨v', value, entry⟩ := traceable_budget.bind entry
  rw [traceable_budget.pure entry]
  exact ⟨front', k', v', rfl, key, value⟩

/-- What a node means ends in the scalar that the node ends in. -/
theorem lastText_read {n : Node Nat} (feed : EndsInFeed text.toList) (ends : n.EndsIn text) :
    ∀ {room : Nat} {v : Value}, (d.read a room n).Gives v → v.LastText text := by
  induction ends with
  | scalar m =>
      intro room v given
      cases room with
      | zero => exact Admission.lastText_scalar feed given
      | succ room => exact Admission.lastText_scalar feed given
  | item front _ ih =>
      intro room v given
      cases room with
      | zero =>
          obtain ⟨before, after, run⟩ := given
          cases run
      | succ room =>
          obtain ⟨vs, items, tagged⟩ := gives_sequence given
          obtain ⟨front', w, rfl, last⟩ := gives_append items
          exact Admission.lastText_tagged tagged (.item front' (ih last))
  | value front k _ ih =>
      intro room v given
      cases room with
      | zero =>
          obtain ⟨before, after, run⟩ := given
          cases run
      | succ room =>
          obtain ⟨es, entries, tagged⟩ := gives_mapping given
          obtain ⟨front', k', w, rfl, -, value⟩ := gives_entries entries
          exact Admission.lastText_tagged tagged (.value front' k' (ih value))
  | key front _ ih =>
      intro room v given
      cases room with
      | zero =>
          obtain ⟨before, after, run⟩ := given
          cases run
      | succ room =>
          obtain ⟨es, entries, tagged⟩ := gives_mapping given
          obtain ⟨front', k', w, rfl, key, value⟩ := gives_entries entries
          cases read_absent value
          exact Admission.lastText_tagged tagged (.key front' (ih key))

end Document

/-- Where the last scalar among the tokens is not plain and ends in a line feed, and nothing but ends
of blocks comes behind it, the value ends in its text. -/
theorem Value.lastText_parse? {source : String} {ts : List Token} {v : Value}
    (feed : EndsInFeed text.toList) (ahead : Ahead text ts) (tokens : tokens? source = some ts)
    (parse : Value.parse? source = some v) : v.LastText text := by
  obtain ⟨d, document, parse⟩ := Option.bind_eq_some_iff.mp parse
  obtain ⟨ts', same, document⟩ := Option.bind_eq_some_iff.mp document
  cases tokens.symm.trans same
  obtain ⟨root, read, document⟩ := Option.bind_eq_some_iff.mp document
  obtain ⟨n, rfl, ends⟩ := endsIn_root? ahead read
  obtain ⟨⟨n', anchors⟩, bound, same⟩ := Option.bind_eq_some_iff.mp document
  cases same
  obtain ⟨⟨w, left⟩, run, same⟩ := Option.map_eq_some_iff.mp parse
  cases same
  exact Document.lastText_read feed (ends.bind? bound) ⟨_, _, run⟩

end HeatStack.Yaml
