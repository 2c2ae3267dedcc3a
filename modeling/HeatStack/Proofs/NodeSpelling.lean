import HeatStack.Proofs.TableLookup
import HeatStack.Yaml.Value

/-! # Where the texts of nodes come from

The scalars of a document are those among its tokens, and one that is left out is empty.  What holds
of all these texts is kept while nodes are read, while aliases are bound and where they are followed:
`Node.All` is the invariant, and `Keeps` says it of a reading from tokens. -/
set_option autoImplicit false
namespace HeatStack.Yaml

/-! ## Texts within a node -/

/-- A text is that of a scalar within the node. -/
inductive Node.Holds {ref : Type} (text : String) : Node ref → Prop
  | scalar (m : Mark) (plain : Bool) : Holds text (.scalar m plain text)
  | item {m : Mark} {items : List (Node ref)} {n : Node ref} :
      n ∈ items → Holds text n → Holds text (.sequence m items)
  | key {m : Mark} {entries : List (Node ref × Node ref)} {e : Node ref × Node ref} :
      e ∈ entries → Holds text e.1 → Holds text (.mapping m entries)
  | value {m : Mark} {entries : List (Node ref × Node ref)} {e : Node ref × Node ref} :
      e ∈ entries → Holds text e.2 → Holds text (.mapping m entries)

section
variable {ref : Type} (A : String → Prop)

/-- Every text within the node is admitted. -/
def Node.All (n : Node ref) : Prop := ∀ text, n.Holds text → A text

def Node.AllEntry (e : Node ref × Node ref) : Prop := e.1.All A ∧ e.2.All A

variable {A}

theorem Node.all_alias (target : ref) : (Node.alias target).All A :=
  fun _ holds => nomatch holds

theorem Node.all_scalar {m : Mark} {plain : Bool} {text : String} :
    (Node.scalar m plain text : Node ref).All A ↔ A text := by
  constructor
  · exact fun all => all text (.scalar m plain)
  · intro admitted other holds
    cases holds
    exact admitted

theorem Node.all_sequence {m : Mark} {items : List (Node ref)} :
    (Node.sequence m items).All A ↔ ∀ n ∈ items, n.All A := by
  constructor
  · exact fun all n member text holds => all text (.item member holds)
  · intro all text holds
    cases holds with
    | item member holds => exact all _ member text holds

theorem Node.all_mapping {m : Mark} {entries : List (Node ref × Node ref)} :
    (Node.mapping m entries).All A ↔ ∀ e ∈ entries, Node.AllEntry A e := by
  constructor
  · exact fun all e member =>
      ⟨fun text holds => all text (.key member holds), fun text holds => all text (.value member holds)⟩
  · intro all text holds
    cases holds with
    | key member holds => exact (all _ member).1 text holds
    | value member holds => exact (all _ member).2 text holds

end

/-! ## Nodes from tokens -/

section
variable (A : String → Prop)

/-- Every scalar token has an admitted text. -/
def Allows (ts : List Token) : Prop := ∀ plain text, Token.scalar plain text ∈ ts → A text

/-- A reading whose results are good, and which leaves admitted tokens only. -/
def Keeps {α : Type} (good : α → Prop) (read : List Token → Option (α × List Token)) : Prop :=
  ∀ ts a rest, Allows A ts → read ts = some (a, rest) → good a ∧ Allows A rest

variable {A}

theorem Allows.tail {t : Token} {ts : List Token} (h : Allows A (t :: ts)) : Allows A ts :=
  fun plain text member => h plain text (List.mem_cons_of_mem _ member)

theorem Allows.drop {ts : List Token} (h : Allows A ts) : Allows A ts.tail :=
  fun plain text member => h plain text (List.mem_of_mem_tail member)

theorem Keeps.map {α β : Type} {good : α → Prop} {better : β → Prop}
    {read : List Token → Option (α × List Token)} {f : α → β} {ts rest : List Token} {b : β}
    (h : Keeps A good read) (better_of : ∀ a, good a → better (f a)) (allowed : Allows A ts)
    (scan : (read ts).map (fun r => (f r.1, r.2)) = some (b, rest)) : better b ∧ Allows A rest := by
  obtain ⟨⟨a, middle⟩, first, same⟩ := Option.map_eq_some_iff.mp scan
  cases same
  obtain ⟨good, allowed⟩ := h ts a middle allowed first
  exact ⟨better_of a good, allowed⟩

theorem allows_mark? {hs : Handles} {ts rest : List Token} {m : Mark} (allowed : Allows A ts)
    (read : Node.mark? hs ts = some (m, rest)) : Allows A rest := by
  unfold Node.mark? at read
  split at read
  · obtain ⟨t, -, same⟩ := Option.map_eq_some_iff.mp read
    cases same
    exact allowed.tail.tail
  · obtain ⟨t, -, same⟩ := Option.map_eq_some_iff.mp read
    cases same
    exact allowed.tail.tail
  · cases read
    exact allowed.tail
  · obtain ⟨t, -, same⟩ := Option.map_eq_some_iff.mp read
    cases same
    exact allowed.tail
  · cases read
    exact allowed

theorem allows_comma? {first : Bool} {ts rest : List Token} (allowed : Allows A ts)
    (read : Node.comma? first ts = some rest) : Allows A rest := by
  unfold Node.comma? at read
  split at read
  · split at read <;> cases read
    · exact allowed
    · exact allowed.tail
  · split at read <;> cases read
    exact allowed

/-- What the readings of one fuel keep, one for each part of a document. -/
structure Node.ReadsWell (A : String → Prop) (hs : Handles) (fuel : Nat) : Prop where
  read : ∀ block loose, Keeps A (Node.All A) (Node.read? hs block loose fuel)
  blockItems : Keeps A (fun vs => ∀ n ∈ vs, n.All A) (Node.blockItems? hs fuel)
  looseItems : Keeps A (fun vs => ∀ n ∈ vs, n.All A) (Node.looseItems? hs fuel)
  blockEntries : Keeps A (fun es => ∀ e ∈ es, Node.AllEntry A e) (Node.blockEntries? hs fuel)
  blockValue : Keeps A (Node.All A) (Node.blockValue? hs fuel)
  flowItems : ∀ first, Keeps A (fun vs => ∀ n ∈ vs, n.All A) (Node.flowItems? hs first fuel)
  flowPair : Keeps A (Node.AllEntry A) (Node.flowPair? hs fuel)
  flowEntries : ∀ first, Keeps A (fun es => ∀ e ∈ es, Node.AllEntry A e)
    (Node.flowEntries? hs first fuel)
  flowValue : Keeps A (Node.All A) (Node.flowValue? hs fuel)

namespace Node
variable {hs : Handles} {fuel : Nat}

theorem keeps_read? (empty : A "") (ih : ReadsWell A hs fuel) (block loose : Bool) :
    Keeps A (Node.All A) (read? hs block loose (fuel + 1)) := by
  intro ts n rest allowed scan
  unfold read? at scan
  split at scan
  · cases scan
  · cases scan
    exact ⟨all_alias _, allowed.tail⟩
  · next same _ =>
    cases same
    obtain ⟨⟨m, ts⟩, marked, scan⟩ := Option.bind_eq_some_iff.mp scan
    have allowed := allows_mark? allowed marked
    have bare : ∀ ts : List Token, Allows A ts →
        (if m = .none then none else some (.scalar m true "", ts)) = some (n, rest) →
        n.All A ∧ Allows A rest := by
      intro ts allowed scan
      split at scan <;> cases scan
      exact ⟨all_scalar.mpr empty, allowed⟩
    dsimp only at scan
    split at scan
    · split at scan
      · exact ih.looseItems.map (fun _ => all_sequence.mpr) allowed scan
      · exact bare _ allowed scan
    · cases scan
      exact ⟨all_scalar.mpr (allowed _ _ (List.mem_cons_self ..)), allowed.tail⟩
    · exact (ih.flowItems true).map (fun _ => all_sequence.mpr) allowed.tail scan
    · exact (ih.flowEntries true).map (fun _ => all_mapping.mpr) allowed.tail scan
    · split at scan
      · exact ih.blockItems.map (fun _ => all_sequence.mpr) allowed.tail scan
      · exact bare _ allowed scan
    · split at scan
      · exact ih.blockEntries.map (fun _ => all_mapping.mpr) allowed.tail scan
      · exact bare _ allowed scan
    · exact bare _ allowed scan

/-- A part that may be left out before the rest is read. -/
theorem part_then {α : Type} {ends : Bool} {left : List Token}
    {read : List Token → Option (Node String × List Token)}
    {more : Node String × List Token → Option α} {ts : List Token} {a : α} (empty : A "")
    (h : Keeps A (Node.All A) read) (allowed : Allows A ts) (allowedLeft : Allows A left)
    (scan : (if ends = true then more (absent, left) else (read ts).bind more) = some a) :
    ∃ n rest, n.All A ∧ Allows A rest ∧ more (n, rest) = some a := by
  cases ends with
  | true => exact ⟨absent, left, all_scalar.mpr empty, allowedLeft, scan⟩
  | false =>
      obtain ⟨⟨n, rest⟩, first, scan⟩ := Option.bind_eq_some_iff.mp scan
      obtain ⟨good, after⟩ := h ts n rest allowed first
      exact ⟨n, rest, good, after, scan⟩

theorem keeps_blockItems? (empty : A "") (ih : ReadsWell A hs fuel) :
    Keeps A (fun vs => ∀ n ∈ vs, n.All A) (blockItems? hs (fuel + 1)) := by
  intro ts vs rest allowed scan
  unfold blockItems? at scan
  split at scan
  · cases scan
  · next same =>
    cases same
    dsimp only at scan
    obtain ⟨n, ts, good, allowed, scan⟩ :=
      part_then empty (ih.read true false) allowed.tail allowed.tail scan
    obtain ⟨⟨ns, ts⟩, others, scan⟩ := Option.bind_eq_some_iff.mp scan
    cases scan
    obtain ⟨goods, allowed⟩ := ih.blockItems _ _ _ allowed others
    exact ⟨List.forall_mem_cons.mpr ⟨good, goods⟩, allowed⟩
  · cases scan
    exact ⟨List.forall_mem_nil _, allowed.tail⟩
  · cases scan

theorem keeps_looseItems? (empty : A "") (ih : ReadsWell A hs fuel) :
    Keeps A (fun vs => ∀ n ∈ vs, n.All A) (looseItems? hs (fuel + 1)) := by
  intro ts vs rest allowed scan
  unfold looseItems? at scan
  split at scan
  · cases scan
  · next same =>
    cases same
    dsimp only at scan
    obtain ⟨n, ts, good, allowed, scan⟩ :=
      part_then empty (ih.read true false) allowed.tail allowed.tail scan
    obtain ⟨⟨ns, ts⟩, others, scan⟩ := Option.bind_eq_some_iff.mp scan
    cases scan
    obtain ⟨goods, allowed⟩ := ih.looseItems _ _ _ allowed others
    exact ⟨List.forall_mem_cons.mpr ⟨good, goods⟩, allowed⟩
  · cases scan
    exact ⟨List.forall_mem_nil _, allowed⟩

theorem keeps_blockValue? (empty : A "") (ih : ReadsWell A hs fuel) :
    Keeps A (Node.All A) (blockValue? hs (fuel + 1)) := by
  intro ts n rest allowed scan
  unfold blockValue? at scan
  split at scan
  · cases scan
  · next same =>
    cases same
    split at scan
    · cases scan
      exact ⟨all_scalar.mpr empty, allowed.tail⟩
    · exact ih.read true true _ _ _ allowed.tail scan
  · cases scan
    exact ⟨all_scalar.mpr empty, allowed⟩

theorem keeps_blockEntries? (empty : A "") (ih : ReadsWell A hs fuel) :
    Keeps A (fun es => ∀ e ∈ es, AllEntry A e) (blockEntries? hs (fuel + 1)) := by
  intro ts es rest allowed scan
  unfold blockEntries? at scan
  split at scan
  · cases scan
  · next same =>
    cases same
    dsimp only at scan
    obtain ⟨k, ts, key, allowed, scan⟩ :=
      part_then empty (ih.read true true) allowed.tail allowed.tail scan
    obtain ⟨⟨v, ts⟩, second, scan⟩ := Option.bind_eq_some_iff.mp scan
    obtain ⟨value, allowed⟩ := ih.blockValue _ _ _ allowed second
    obtain ⟨⟨more, ts⟩, others, scan⟩ := Option.bind_eq_some_iff.mp scan
    cases scan
    obtain ⟨goods, allowed⟩ := ih.blockEntries _ _ _ allowed others
    exact ⟨List.forall_mem_cons.mpr ⟨⟨key, value⟩, goods⟩, allowed⟩
  · cases scan
    exact ⟨List.forall_mem_nil _, allowed.tail⟩
  · cases scan

theorem keeps_flowItems? (ih : ReadsWell A hs fuel) (first : Bool) :
    Keeps A (fun vs => ∀ n ∈ vs, n.All A) (flowItems? hs first (fuel + 1)) := by
  intro ts vs rest allowed scan
  unfold flowItems? at scan
  split at scan
  · cases scan
  · cases scan
    exact ⟨List.forall_mem_nil _, allowed.tail⟩
  · next same _ =>
    cases same
    obtain ⟨ts, separated, scan⟩ := Option.bind_eq_some_iff.mp scan
    have allowed := allows_comma? allowed separated
    split at scan
    · cases scan
      exact ⟨List.forall_mem_nil _, allowed.tail⟩
    · obtain ⟨⟨e, ts⟩, pair, scan⟩ := Option.bind_eq_some_iff.mp scan
      obtain ⟨good, allowed⟩ := ih.flowPair _ _ _ allowed.tail pair
      obtain ⟨⟨ns, ts⟩, others, scan⟩ := Option.bind_eq_some_iff.mp scan
      cases scan
      obtain ⟨goods, allowed⟩ := ih.flowItems false _ _ _ allowed others
      have mapping : (Node.mapping .none [e]).All A :=
        all_mapping.mpr (List.forall_mem_singleton.mpr good)
      exact ⟨List.forall_mem_cons.mpr ⟨mapping, goods⟩, allowed⟩
    · obtain ⟨⟨n, ts⟩, item, scan⟩ := Option.bind_eq_some_iff.mp scan
      obtain ⟨good, allowed⟩ := ih.read false false _ _ _ allowed item
      obtain ⟨⟨ns, ts⟩, others, scan⟩ := Option.bind_eq_some_iff.mp scan
      cases scan
      obtain ⟨goods, allowed⟩ := ih.flowItems false _ _ _ allowed others
      exact ⟨List.forall_mem_cons.mpr ⟨good, goods⟩, allowed⟩

theorem keeps_flowPair? (empty : A "") (ih : ReadsWell A hs fuel) :
    Keeps A (AllEntry A) (flowPair? hs (fuel + 1)) := by
  intro ts e rest allowed scan
  unfold flowPair? at scan
  dsimp only at scan
  obtain ⟨k, ts, key, allowed, scan⟩ :=
    part_then empty (ih.read false false) allowed allowed.drop scan
  dsimp only at scan
  split at scan
  · split at scan
    · cases scan
      exact ⟨⟨key, all_scalar.mpr empty⟩, allowed.tail⟩
    · exact (ih.read false false).map (fun v value => ⟨key, value⟩) allowed.tail scan
  · cases scan
    exact ⟨⟨key, all_scalar.mpr empty⟩, allowed⟩

theorem keeps_flowValue? (empty : A "") (ih : ReadsWell A hs fuel) :
    Keeps A (Node.All A) (flowValue? hs (fuel + 1)) := by
  intro ts n rest allowed scan
  unfold flowValue? at scan
  split at scan
  · cases scan
  · next same =>
    cases same
    split at scan
    · cases scan
      exact ⟨all_scalar.mpr empty, allowed.tail⟩
    · exact ih.read false false _ _ _ allowed.tail scan
  · cases scan
    exact ⟨all_scalar.mpr empty, allowed⟩

theorem keeps_flowEntries? (empty : A "") (ih : ReadsWell A hs fuel) (first : Bool) :
    Keeps A (fun es => ∀ e ∈ es, AllEntry A e) (flowEntries? hs first (fuel + 1)) := by
  intro ts es rest allowed scan
  unfold flowEntries? at scan
  split at scan
  · cases scan
  · cases scan
    exact ⟨List.forall_mem_nil _, allowed.tail⟩
  · next same _ =>
    cases same
    obtain ⟨ts, separated, scan⟩ := Option.bind_eq_some_iff.mp scan
    have allowed := allows_comma? allowed separated
    split at scan
    · cases scan
      exact ⟨List.forall_mem_nil _, allowed.tail⟩
    · dsimp only at scan
      obtain ⟨k, ts, key, allowed, scan⟩ :=
        part_then empty (ih.read false false) allowed.tail allowed.tail scan
      obtain ⟨⟨v, ts⟩, second, scan⟩ := Option.bind_eq_some_iff.mp scan
      obtain ⟨value, allowed⟩ := ih.flowValue _ _ _ allowed second
      obtain ⟨⟨more, ts⟩, others, scan⟩ := Option.bind_eq_some_iff.mp scan
      cases scan
      obtain ⟨goods, allowed⟩ := ih.flowEntries false _ _ _ allowed others
      exact ⟨List.forall_mem_cons.mpr ⟨⟨key, value⟩, goods⟩, allowed⟩
    · obtain ⟨⟨k, ts⟩, item, scan⟩ := Option.bind_eq_some_iff.mp scan
      obtain ⟨key, allowed⟩ := ih.read false false _ _ _ allowed item
      obtain ⟨⟨more, ts⟩, others, scan⟩ := Option.bind_eq_some_iff.mp scan
      cases scan
      obtain ⟨goods, allowed⟩ := ih.flowEntries false _ _ _ allowed others
      exact ⟨List.forall_mem_cons.mpr ⟨⟨key, all_scalar.mpr empty⟩, goods⟩, allowed⟩

theorem readsWell (empty : A "") (hs : Handles) (fuel : Nat) : ReadsWell A hs fuel := by
  induction fuel with
  | zero => constructor <;> intros <;> intro _ _ _ _ scan <;> cases scan
  | succ fuel ih =>
      exact {
        read := keeps_read? empty ih
        blockItems := keeps_blockItems? empty ih
        looseItems := keeps_looseItems? empty ih
        blockEntries := keeps_blockEntries? empty ih
        blockValue := keeps_blockValue? empty ih
        flowItems := keeps_flowItems? ih
        flowPair := keeps_flowPair? empty ih
        flowEntries := keeps_flowEntries? empty ih
        flowValue := keeps_flowValue? empty ih }

end Node

theorem allows_directives? : ∀ (ts : List Token) (seen : Bool) (hs hs' : Handles) (rest : List Token),
    Allows A ts → directives? seen hs ts = some (hs', rest) → Allows A rest := by
  intro ts
  induction ts with
  | nil =>
      intro seen hs hs' rest allowed read
      cases read
      exact allowed
  | cons t ts ih =>
      intro seen hs hs' rest allowed read
      unfold directives? at read
      split at read
      · next same =>
        cases same
        split at read
        · cases read
        · exact ih _ _ _ _ allowed.tail read
      · next same =>
        cases same
        split at read
        · cases read
        · exact ih _ _ _ _ allowed.tail read
      · cases read
        exact allowed

theorem or_of_ite {α : Type} {b : Bool} {yes no : Option α} {a : α}
    (h : (if b = true then yes else no) = some a) : yes = some a ∨ no = some a := by
  cases b with
  | true => exact .inl h
  | false => exact .inr h

theorem all_root? (empty : A "") {ts : List Token} {n : Node String} (allowed : Allows A ts)
    (read : root? ts = some (some n)) : n.All A := by
  have finish : ∀ (m : Node String) (rest : List Token), m.All A →
      (if onlyEndMarks rest then some (some m) else none) = some (some n) → n.All A := by
    intro m rest all same
    split at same <;> cases same
    exact all
  unfold root? at read
  dsimp only at read
  split at read
  · cases read
  · -- the document begins with a directive or a mark, or with its content
    obtain read | read := or_of_ite read
    · obtain ⟨⟨hs, ts⟩, directives, read⟩ := Option.bind_eq_some_iff.mp read
      have allowed := allows_directives? _ _ _ _ _ allowed directives
      dsimp only at read
      split at read
      · split at read
        · exact finish _ _ (Node.all_scalar.mpr empty) read
        · obtain ⟨⟨m, rest⟩, node, read⟩ := Option.bind_eq_some_iff.mp read
          exact finish m rest ((Node.readsWell empty _ _).read _ _ _ _ _ allowed.tail node).1 read
      · cases read
    · obtain ⟨⟨m, rest⟩, node, read⟩ := Option.bind_eq_some_iff.mp read
      exact finish m rest ((Node.readsWell empty _ _).read _ _ _ _ _ allowed node).1 read

/-! ## Anchors -/

def Anchors.All (A : String → Prop) (a : Anchors) : Prop := ∀ e ∈ a.nodes, e.2.All A

theorem Anchors.all_none : Anchors.none.All A := List.forall_mem_nil _

theorem Anchors.all_enter {a : Anchors} (all : a.All A) (m : Mark) : (a.enter m).1.All A := by
  unfold enter
  split <;> exact all

theorem Anchors.all_leave {a before : Anchors} {number : Option Nat} {n : Node Nat} {events : Nat}
    (all : a.All A) (node : n.All A) : (a.leave before number n events).All A := by
  intro e member
  unfold leave at member
  dsimp only at member
  split at member
  · exact all e member
  · obtain inner | same | outer := (List.mem_append.mp member).imp id List.mem_cons.mp
    · exact all e (List.mem_of_mem_take inner)
    · rw [same]
      exact node
    · exact all e (List.mem_of_mem_drop outer)

mutual
theorem all_bind? : ∀ (n : Node String) (a a' : Anchors) (n' : Node Nat), a.All A → n.All A →
    Node.bind? a n = some (n', a') → n'.All A ∧ a'.All A
  | .alias name, a, a', n', all, _, bound => by
      unfold Node.bind? at bound
      obtain ⟨i, -, same⟩ := Option.map_eq_some_iff.mp bound
      cases same
      exact ⟨Node.all_alias i, all⟩
  | .scalar m plain text, a, a', n', all, node, bound => by
      unfold Node.bind? at bound
      cases bound
      have scalar : (Node.scalar m plain text : Node Nat).All A :=
        Node.all_scalar.mpr (Node.all_scalar.mp node)
      exact ⟨scalar, Anchors.all_leave (Anchors.all_enter all m) scalar⟩
  | .sequence m items, a, a', n', all, node, bound => by
      unfold Node.bind? at bound
      obtain ⟨⟨items', inner⟩, parts, same⟩ := Option.bind_eq_some_iff.mp bound
      cases same
      obtain ⟨goods, after⟩ := all_bindItems? items _ _ _ (Anchors.all_enter all m)
        (Node.all_sequence.mp node) parts
      have sequence : (Node.sequence m items').All A := Node.all_sequence.mpr goods
      exact ⟨sequence, Anchors.all_leave after sequence⟩
  | .mapping m entries, a, a', n', all, node, bound => by
      unfold Node.bind? at bound
      obtain ⟨⟨entries', inner⟩, parts, same⟩ := Option.bind_eq_some_iff.mp bound
      cases same
      obtain ⟨goods, after⟩ := all_bindEntries? entries _ _ _ (Anchors.all_enter all m)
        (Node.all_mapping.mp node) parts
      have mapping : (Node.mapping m entries').All A := Node.all_mapping.mpr goods
      exact ⟨mapping, Anchors.all_leave after mapping⟩

theorem all_bindItems? : ∀ (ns : List (Node String)) (a a' : Anchors) (ns' : List (Node Nat)),
    a.All A → (∀ n ∈ ns, n.All A) → Node.bindItems? a ns = some (ns', a') →
      (∀ n ∈ ns', n.All A) ∧ a'.All A
  | [], a, a', ns', all, _, bound => by
      unfold Node.bindItems? at bound
      cases bound
      exact ⟨List.forall_mem_nil _, all⟩
  | n :: rest, a, a', ns', all, nodes, bound => by
      unfold Node.bindItems? at bound
      obtain ⟨⟨n', middle⟩, first, bound⟩ := Option.bind_eq_some_iff.mp bound
      obtain ⟨⟨rest', last⟩, others, same⟩ := Option.bind_eq_some_iff.mp bound
      cases same
      obtain ⟨node, nodes⟩ := List.forall_mem_cons.mp nodes
      obtain ⟨good, all⟩ := all_bind? n _ _ _ all node first
      obtain ⟨goods, all⟩ := all_bindItems? rest _ _ _ all nodes others
      exact ⟨List.forall_mem_cons.mpr ⟨good, goods⟩, all⟩

theorem all_bindEntries? : ∀ (es : List (Node String × Node String)) (a a' : Anchors)
    (es' : List (Node Nat × Node Nat)), a.All A → (∀ e ∈ es, Node.AllEntry A e) →
      Node.bindEntries? a es = some (es', a') → (∀ e ∈ es', Node.AllEntry A e) ∧ a'.All A
  | [], a, a', es', all, _, bound => by
      unfold Node.bindEntries? at bound
      cases bound
      exact ⟨List.forall_mem_nil _, all⟩
  | (k, v) :: rest, a, a', es', all, entries, bound => by
      unfold Node.bindEntries? at bound
      obtain ⟨⟨k', before⟩, first, bound⟩ := Option.bind_eq_some_iff.mp bound
      obtain ⟨⟨v', middle⟩, second, bound⟩ := Option.bind_eq_some_iff.mp bound
      obtain ⟨⟨rest', last⟩, others, same⟩ := Option.bind_eq_some_iff.mp bound
      cases same
      obtain ⟨entry, entries⟩ := List.forall_mem_cons.mp entries
      obtain ⟨key, all⟩ := all_bind? k _ _ _ all entry.1 first
      obtain ⟨value, all⟩ := all_bind? v _ _ _ all entry.2 second
      obtain ⟨goods, all⟩ := all_bindEntries? rest _ _ _ all entries others
      exact ⟨List.forall_mem_cons.mpr ⟨⟨key, value⟩, goods⟩, all⟩
end

/-! ## Documents and their values -/

/-- Every text of the document, behind an alias or not. -/
structure Document.All (A : String → Prop) (d : Document) : Prop where
  root : ∀ n, d.root = some n → n.All A
  anchored : ∀ e ∈ d.anchored, e.2.All A

theorem all_parse? (empty : A "") {source : String} {d : Document}
    (allowed : ∀ ts, tokens? source = some ts → Allows A ts)
    (parse : Document.parse? source = some d) : d.All A := by
  obtain ⟨ts, tokens, parse⟩ := Option.bind_eq_some_iff.mp parse
  have allowed := allowed ts tokens
  obtain ⟨root, read, parse⟩ := Option.bind_eq_some_iff.mp parse
  cases root with
  | none =>
      cases parse
      exact ⟨nofun, List.forall_mem_nil _⟩
  | some n =>
      obtain ⟨⟨n', a⟩, bound, same⟩ := Option.bind_eq_some_iff.mp parse
      cases same
      obtain ⟨good, all⟩ := all_bind? n _ _ _ Anchors.all_none
        (all_root? empty allowed read) bound
      refine ⟨fun m same => ?_, all⟩
      cases same
      exact good

theorem Document.all_follow {d : Document} (all : d.All A) {n m : Node Nat} {left left' : Nat}
    (node : n.All A) (followed : (d.follow n).run left = some (m, left')) : m.All A := by
  unfold follow at followed
  split at followed
  · next i =>
      dsimp only [StateT.run] at followed
      split at followed
      · next found =>
          cases followed
          exact all.anchored (i, _) (Table.mem_of_lookup_eq_some found)
      · cases followed
  · cases followed
    exact node

end

/-! ## Values -/

theorem Scalar.integerValue?_number {cs : List Char} {v : Value}
    (h : Scalar.integerValue? cs = some (some v)) : ∃ n, v = .number (.integer n) := by
  unfold Scalar.integerValue? at h
  split at h
  · cases h
  · next n _ =>
      split at h
      · cases h
        exact ⟨n, rfl⟩
      · split at h <;> cases h

/-- What a scalar can mean: a text means itself. -/
inductive Value.OfScalar (s : String) : Value → Prop
  | null : OfScalar s .null
  | bool (b : Bool) : OfScalar s (.bool b)
  | number (n : Number.Numeric) : OfScalar s (.number n)
  | string : OfScalar s (.string s)

theorem Scalar.ofScalar_plain? {s : String} {v : Value} (read : Scalar.plain? s = some v) :
    v.OfScalar s := by
  unfold Scalar.plain? at read
  split at read
  · cases read
    exact .null
  split at read
  · cases read
    exact .bool _
  split at read
  · next number =>
      subst read
      obtain ⟨n, rfl⟩ := integerValue?_number number
      exact .number _
  split at read
  · cases read
    exact .string
  split at read <;> cases read
  · exact .number _
  · exact .string

theorem Scalar.ofScalar_value? {tag : Option String} {plain : Bool} {s : String} {v : Value}
    (read : Scalar.value? tag plain s = some v) : v.OfScalar s := by
  unfold Scalar.value? at read
  split at read
  · unfold Scalar.forced? at read
    split at read
    · obtain ⟨b, -, rfl⟩ := Option.map_eq_some_iff.mp read
      exact .bool b
    split at read
    · obtain ⟨n, rfl⟩ := integerValue?_number (Option.join_eq_some_iff.mp read)
      exact .number _
    split at read
    · obtain ⟨x, -, rfl⟩ := Option.map_eq_some_iff.mp read
      exact .number _
    split at read
    · split at read <;> cases read
      exact .null
    · cases read
      exact .string
  · split at read
    · exact ofScalar_plain? read
    · cases read
      exact .string

theorem Value.OfScalar.untagged {s : String} {v : Value} (h : v.OfScalar s) :
    v.untagged.OfScalar s := by
  cases h <;> constructor

theorem Admission.untagged_tagged {a : Admission} {m : Mark} {v w : Value} {left left' : Nat}
    (run : (a.tagged m v).run left = some (w, left')) : w.untagged = v.untagged := by
  unfold tagged at run
  split at run
  · split at run <;> cases run
    rfl
  · cases run
    rfl

theorem Admission.ofScalar {a : Admission} {m : Mark} {plain : Bool} {text : String} {v : Value}
    {left left' : Nat} (run : (a.scalar m plain text).run left = some (v, left')) :
    v.untagged.OfScalar text := by
  unfold scalar at run
  split at run
  · obtain ⟨⟨w, middle⟩, scalar, tagged⟩ := Option.bind_eq_some_iff.mp run
    rw [untagged_tagged tagged]
    obtain ⟨w', read, same⟩ := Option.bind_eq_some_iff.mp scalar
    cases same
    exact (Scalar.ofScalar_value? read).untagged
  · obtain ⟨w', read, same⟩ := Option.bind_eq_some_iff.mp run
    cases same
    exact (Scalar.ofScalar_value? read).untagged

/-- What a reading can give, as far as one after another is concerned. -/
structure Traceable (m : Type → Type) [Monad m] (gives : {α : Type} → m α → α → Prop) : Prop where
  pure : ∀ {α : Type} {a b : α}, gives (Pure.pure a) b → b = a
  bind : ∀ {α β : Type} {x : m α} {f : α → m β} {b : β},
    gives (x >>= f) b → ∃ a, gives x a ∧ gives (f a) b

/-- Whatever several readings give comes from one of them. -/
theorem Traceable.mem_mapM {m : Type → Type} [Monad m] [LawfulMonad m]
    {gives : {α : Type} → m α → α → Prop} (traceable : Traceable m gives) {α β : Type} {f : α → m β} :
    ∀ (xs : List α) (ys : List β), gives (xs.mapM f) ys → ∀ y ∈ ys, ∃ x ∈ xs, gives (f x) y := by
  intro xs
  induction xs with
  | nil =>
      intro ys given y member
      rw [traceable.pure given] at member
      cases member
  | cons x xs ih =>
      intro ys given y member
      rw [List.mapM_cons] at given
      obtain ⟨z, first, given⟩ := traceable.bind given
      obtain ⟨zs, others, given⟩ := traceable.bind given
      rw [traceable.pure given] at member
      obtain rfl | later := List.mem_cons.mp member
      · exact ⟨x, List.mem_cons_self .., first⟩
      · obtain ⟨x', member, read⟩ := ih zs others y later
        exact ⟨x', List.mem_cons_of_mem _ member, read⟩

theorem traceable_option : Traceable Option fun x a => x = some a where
  pure same := (Option.some.inj same).symm
  bind same := Option.bind_eq_some_iff.mp same

theorem traceable_budget :
    Traceable Budget fun x a => ∃ before after, StateT.run x before = some (a, after) where
  pure := by
    rintro _ _ _ ⟨before, after, same⟩
    cases same
    rfl
  bind := by
    rintro _ _ _ _ _ ⟨before, after, run⟩
    obtain ⟨⟨a, middle⟩, first, second⟩ := Option.bind_eq_some_iff.mp run
    exact ⟨a, ⟨before, middle, first⟩, middle, after, second⟩

namespace Document
variable {A : String → Prop} {d : Document} {a : Admission}

/-- A value that is a text is that of a scalar of the document. -/
theorem read_string (all : d.All A) (room : Nat) {n : Node Nat} {v : Value} {s : String}
    {left left' : Nat} (node : n.All A) (run : (d.read a room n).run left = some (v, left'))
    (string : v.untagged = .string s) : A s := by
  have ofScalar : ∀ {m : Mark} {plain : Bool} {text : String} {before : Nat},
      A text → (a.scalar m plain text).run before = some (v, left') → A s := by
    intro m plain text before admitted run
    have scalar := Admission.ofScalar run
    rw [string] at scalar
    cases scalar
    exact admitted
  cases room with
  | zero =>
      obtain ⟨⟨m, middle⟩, followed, run⟩ := Option.bind_eq_some_iff.mp run
      have node := all_follow all node followed
      dsimp only at run
      split at run
      · exact ofScalar (Node.all_scalar.mp node) run
      · cases run
  | succ room =>
      obtain ⟨⟨m, middle⟩, followed, run⟩ := Option.bind_eq_some_iff.mp run
      have node := all_follow all node followed
      dsimp only at run
      split at run
      · cases run
      · exact ofScalar (Node.all_scalar.mp node) run
      · obtain ⟨⟨vs, after⟩, -, tagged⟩ := Option.bind_eq_some_iff.mp run
        rw [Admission.untagged_tagged tagged] at string
        cases string
      · obtain ⟨⟨es, after⟩, -, run⟩ := Option.bind_eq_some_iff.mp run
        dsimp only at run
        split at run
        · rw [Admission.untagged_tagged run] at string
          cases string
        · cases run

/-- Keys of a mapping that are texts are those of scalars. -/
theorem read_keys (all : d.All A) (room : Nat) {n : Node Nat} {es : List (Value × Value)}
    {left left' : Nat} (node : n.All A)
    (run : (d.read a room n).run left = some (.mapping es, left')) :
    ∀ e ∈ es, ∀ s, e.1.untagged = .string s → A s := by
  intro e member s string
  cases room with
  | zero =>
      obtain ⟨⟨m, middle⟩, -, run⟩ := Option.bind_eq_some_iff.mp run
      dsimp only at run
      split at run
      · cases Admission.ofScalar run
      · cases run
  | succ room =>
      obtain ⟨⟨m, middle⟩, followed, run⟩ := Option.bind_eq_some_iff.mp run
      have node := all_follow all node followed
      dsimp only at run
      split at run
      · cases run
      · cases Admission.ofScalar run
      · obtain ⟨⟨vs, after⟩, -, tagged⟩ := Option.bind_eq_some_iff.mp run
        cases Admission.untagged_tagged tagged
      · obtain ⟨⟨es', after⟩, entries, run⟩ := Option.bind_eq_some_iff.mp run
        dsimp only at run
        split at run
        · cases Admission.untagged_tagged run
          obtain ⟨⟨k, v⟩, inside, before, after, read⟩ :=
            traceable_budget.mem_mapM _ _ ⟨_, _, entries⟩ e member
          obtain ⟨⟨key, between⟩, first, read⟩ := Option.bind_eq_some_iff.mp read
          obtain ⟨⟨value, last⟩, -, same⟩ := Option.bind_eq_some_iff.mp read
          cases same
          exact read_string all room (Node.all_mapping.mp node _ inside).1 first string
        · cases run

end Document

/-- A mapping that a whole text means has no other key texts than those of its scalar tokens. -/
theorem Value.parse?_keys {A : String → Prop} (empty : A "") {source : String}
    {es : List (Value × Value)} (allowed : ∀ ts, tokens? source = some ts → Allows A ts)
    (parse : Value.parse? source = some (.mapping es)) :
    ∀ e ∈ es, ∀ s, e.1.untagged = .string s → A s := by
  obtain ⟨d, document, parse⟩ := Option.bind_eq_some_iff.mp parse
  have all := all_parse? empty allowed document
  split at parse
  · cases parse
  · next n root =>
      obtain ⟨⟨v, left⟩, run, same⟩ := Option.map_eq_some_iff.mp parse
      cases same
      exact Document.read_keys all _ (all.root n root) run

end HeatStack.Yaml
