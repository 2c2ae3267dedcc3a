import HeatStack.Proofs.TableLookup
import HeatStack.Template.Document

/-! # The entries of a compiled template

A section is read entry by entry, so a parameter or output depends on its own name and value alone,
and stands under that name.  Of several entries with one name the last stays. -/
set_option autoImplicit false
namespace HeatStack.Template

theorem get?_entryTable {α : Type} (read : String → Yaml.Value → α)
    (entries : List (String × Yaml.Value)) (name : String) :
    (entryTable read entries).get? name = (entries.reverse.lookup name).map (read name) := by
  rw [entryTable, Table.get?_ofList, ← List.map_reverse, Table.lookup_map]

theorem Parameter.name_of_ofEntry? (name : String) (v : Yaml.Value) (p : Parameter)
    (read : Parameter.ofEntry? name v = some p) : p.name = name := by
  simp only [ ofEntry?, Option.bind_eq_bind, Option.bind_eq_some_iff, Option.some.injEq] at read
  obtain ⟨_, _, _, _, _, _, _, _, _, _, _, _, _, _, rfl⟩ := read
  rfl

@[simp] theorem Parameter.name_ofEntry (name : String) (v : Yaml.Value) :
    (Parameter.ofEntry name v).name = name := by
  unfold ofEntry
  cases read : ofEntry? name v with
  | none => rfl
  | some p => exact name_of_ofEntry? name v p read

theorem compile_eq_ok (name source : String) (b : Bundle) (compiled : compile name source = .ok b) :
    ((Sections.mentioned source).any = false ∧ b = .empty name source) ∨
    ((Sections.mentioned source).any = true ∧
      ∃ d, Document.ofText source = .ok d ∧ b = d.bundle name source) := by
  unfold compile at compiled
  cases mentioned : (Sections.mentioned source).any with
  | false =>
      simp only [mentioned, Bool.not_false, if_true, Except.ok.injEq] at compiled
      exact .inl ⟨rfl, compiled.symm⟩
  | true =>
      simp only [mentioned, Bool.not_true, Bool.false_eq_true, if_false] at compiled
      cases read : Document.ofText source with
      | error fault => simp [read] at compiled
      | ok d =>
          simp only [read, Except.ok.injEq] at compiled
          exact .inr ⟨rfl, d, rfl, compiled.symm⟩

theorem compile_of_mentioned {source : String} {d : Document}
    (mentioned : (Sections.mentioned source).any = true) (decoded : Document.ofText source = .ok d)
    (name : String) : compile name source = .ok (d.bundle name source) := by
  simp only [compile, mentioned, decoded, Bool.not_true, Bool.false_eq_true, if_false]

section Stages
open Yaml

/-- A text is read in stages. -/
theorem parse?_of_stages {source : String} {ts : List Token} (n : Node String) (n' : Node Nat)
    (a : Anchors) {v : Value} (tokens : tokens? source = some ts) (root : root? ts = some (some n))
    (bound : Node.bind? .none n = some (n', a))
    (read : ((Document.value ⟨some n', a.nodes, a.count⟩ nestingLimit n').run
      (Document.aliasLimit ⟨some n', a.nodes, a.count⟩)).map Prod.fst = some v) :
    Value.parse? source = some v := by
  have document : Yaml.Document.parse? source = some ⟨some n', a.nodes, a.count⟩ := by
    simp only [Yaml.Document.parse?, tokens, root, bound, Option.bind_eq_bind, Option.bind_some]
  simp only [Value.parse?, document, Option.bind_eq_bind, Option.bind_some, read]

theorem ofText_of_stages {source : String} {ts : List Token} {d : Document} (n : Node String)
    (n' : Node Nat) (a : Anchors) (entries : List (Value × Value))
    (tokens : tokens? source = some ts) (root : root? ts = some (some n))
    (bound : Node.bind? .none n = some (n', a))
    (read : ((Document.value ⟨some n', a.nodes, a.count⟩ nestingLimit n').run
      (Document.aliasLimit ⟨some n', a.nodes, a.count⟩)).map Prod.fst = some (.mapping entries))
    (sections : Document.ofMapping? (.mapping entries) = some d) : Document.ofText source = .ok d := by
  simp only [Document.ofText, parse?_of_stages n n' a tokens root bound read, sections]

end Stages

theorem source_of_compile {name source : String} {b : Bundle} (compiled : compile name source = .ok b) :
    b.source = source := by
  obtain ⟨-, rfl⟩ | ⟨-, d, -, rfl⟩ := compile_eq_ok name source b compiled <;> rfl

theorem fingerprint_of_compile {name source : String} {b : Bundle}
    (compiled : compile name source = .ok b) : b.name = name ∧ b.fingerprint = fingerprint source := by
  rcases compile_eq_ok name source b compiled with ⟨-, rfl⟩ | ⟨-, d, -, rfl⟩ <;> exact ⟨rfl, rfl⟩

/-- The name of a template has no part in its parameters. -/
theorem parameters_of_compile {name other source : String} {a b : Bundle}
    (first : compile name source = .ok a) (second : compile other source = .ok b) :
    a.parameters = b.parameters := by
  rcases compile_eq_ok name source a first with ⟨unmentioned, rfl⟩ | ⟨mentioned, d, decoded, rfl⟩
  · rcases compile_eq_ok other source b second with ⟨-, rfl⟩ | ⟨mentioned, -⟩
    · rfl
    · rw [unmentioned] at mentioned
      cases mentioned
  · rw [compile_of_mentioned mentioned decoded] at second
    cases second
    rfl

/-! ## Parameters under their own names -/

/-- Each parameter stands under its own name. -/
def Bundle.WellNamed (b : Bundle) : Prop :=
  ∀ name p, b.parameters.get? name = some p → p.name = name

theorem Bundle.wellNamed_empty (name source : String) : (Bundle.empty name source).WellNamed := by
  intro n p found
  cases found

theorem Bundle.wellNamed_insertParameter (b : Bundle) (p : Parameter) (named : b.WellNamed) :
    (b.insertParameter p).WellNamed := by
  intro n q found
  rw [insertParameter, Table.get?_insert] at found
  split at found
  · next same =>
      cases Option.some.inj found
      exact same.symm
  · exact named n q found

theorem Document.wellNamed_bundle (d : Document) (name source : String) :
    (d.bundle name source).WellNamed := by
  intro n p found
  rw [Document.bundle, get?_entryTable, Option.map_eq_some_iff] at found
  obtain ⟨v, -, rfl⟩ := found
  exact Parameter.name_ofEntry n v

theorem wellNamed_compile (name source : String) (b : Bundle)
    (compiled : compile name source = .ok b) : b.WellNamed := by
  rcases compile_eq_ok name source b compiled with ⟨-, rfl⟩ | ⟨-, d, -, rfl⟩
  · exact Bundle.wellNamed_empty name source
  · exact d.wellNamed_bundle name source

end HeatStack.Template
