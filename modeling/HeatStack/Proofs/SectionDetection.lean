import HeatStack.Proofs.Compilation
import HeatStack.Proofs.NodeSpelling
import HeatStack.Proofs.TokenSpelling
import Mathlib

/-! # Which sections the first look finds

`compile` decodes a text only where the name of a section stands in it.  That overlooks a section whose
key is written between double quotes with escapes, and nothing else: `sections_found_iff`. -/
set_option autoImplicit false
namespace HeatStack.Template
open HeatStack.Text HeatStack.Yaml

inductive SectionKind
  | parameters
  | outputs
  | tags
deriving DecidableEq

def SectionKind.name : SectionKind → String
  | .parameters => "parameters"
  | .outputs => "outputs"
  | .tags => "tags"

def Sections.flag (s : Sections) : SectionKind → Bool
  | .parameters => s.parameters
  | .outputs => s.outputs
  | .tags => s.tags

/-- The document has the section, and it is not null. -/
def Document.has (d : Document) : SectionKind → Bool
  | .parameters => d.parameters.isSome
  | .outputs => d.outputs.isSome
  | .tags => d.tags.isSome

/-- The key is spelled with escapes in the source, and stands nowhere as it is. -/
def OnlyEscaped (source : String) (k : SectionKind) : Prop :=
  EscapedSpelling source.toList k.name.toList ∧ ¬ k.name.toList <:+: source.toList

theorem SectionKind.solid_name (k : SectionKind) : Solid k.name.toList := by
  have letters : k.name.toList.all isLetter = true := by
    cases k <;> rfl
  exact List.all_eq_true.mp letters

/-! ## The first look -/

theorem contains_iff (part : List Char) : ∀ cs : List Char, contains part cs = true ↔ part <:+: cs := by
  intro cs
  induction cs with
  | nil => rw [contains, List.isEmpty_iff, List.infix_nil]
  | cons c cs ih =>
      rw [contains, Bool.or_eq_true, List.isPrefixOf_iff_prefix, ih, List.infix_cons_iff]

theorem flag_mentioned (source : String) (k : SectionKind) :
    (Sections.mentioned source).flag k = true ↔ k.name.toList <:+: source.toList := by
  cases k <;> exact contains_iff _ _

theorem Sections.any_iff (s : Sections) : s.any = true ↔ ∃ k, s.flag k = true := by
  unfold any
  constructor
  · intro found
    simp only [Bool.or_eq_true] at found
    obtain (parameters | outputs) | tags := found
    · exact ⟨.parameters, parameters⟩
    · exact ⟨.outputs, outputs⟩
    · exact ⟨.tags, tags⟩
  · rintro ⟨k, found⟩
    cases k <;> simp only [flag] at found <;> simp [found]

/-! ## Sections of a document and keys of its mapping -/

/-- A field that is read and not null is an entry whose key is its name. -/
theorem key_of_optional? {α : Type} {names : List String} {entries : List (Value × Value)}
    {fields : List (String × Value)} {name : String} {read : Value → Option α} {a : α}
    (known : (Value.mapping entries).fields? names = some fields)
    (found : Value.optional? fields name read = some (some a)) :
    ∃ e ∈ entries, e.1.untagged = .string name := by
  obtain ⟨named, all, known⟩ := Option.bind_eq_some_iff.mp known
  have inFields : ∃ v, (name, v) ∈ fields := by
    unfold Value.optional? at found
    split at found
    · cases found
    · cases found
    · next v _ looked => exact ⟨v, Table.mem_of_lookup_eq_some looked⟩
  obtain ⟨v, member⟩ := inFields
  dsimp only at known
  split at known
  · cases known
    obtain ⟨⟨k, w⟩, inside, read⟩ := traceable_option.mem_mapM _ _ all _ (List.mem_filter.mp member).1
    obtain ⟨s, text, same⟩ := Option.map_eq_some_iff.mp read
    cases same
    refine ⟨(k, v), inside, ?_⟩
    unfold Value.text? at text
    split at text
    · next string =>
        cases text
        exact string
    · cases text
  · cases known

/-- A section that is there is the value of a key in the text. -/
theorem spelled_of_has {source : String} {d : Document} (decoded : Document.ofText source = .ok d)
    (k : SectionKind) (has : d.has k = true) : Spelled source.toList k.name.toList := by
  unfold Document.ofText at decoded
  split at decoded
  · cases decoded
  · cases decoded
    cases k <;> cases has
  · next entries parsed =>
      split at decoded
      · next d' sections =>
          cases decoded
          obtain ⟨fields, known, sections⟩ := Option.bind_eq_some_iff.mp sections
          obtain ⟨parameters, first, sections⟩ := Option.bind_eq_some_iff.mp sections
          obtain ⟨outputs, second, sections⟩ := Option.bind_eq_some_iff.mp sections
          obtain ⟨tags, third, same⟩ := Option.bind_eq_some_iff.mp sections
          cases same
          have key : ∃ e ∈ entries, e.1.untagged = .string k.name := by
            cases k with
            | parameters =>
                obtain ⟨a, rfl⟩ : ∃ a, parameters = some a := Option.isSome_iff_exists.mp has
                exact key_of_optional? known first
            | outputs =>
                obtain ⟨a, rfl⟩ : ∃ a, outputs = some a := Option.isSome_iff_exists.mp has
                exact key_of_optional? known second
            | tags =>
                obtain ⟨a, rfl⟩ : ∃ a, tags = some a := Option.isSome_iff_exists.mp has
                exact key_of_optional? known third
          obtain ⟨e, member, string⟩ := key
          refine Value.parse?_keys (A := fun text => Spelled source.toList text.toList) ?_ ?_ parsed e
            member k.name string
          · exact fun _ => .inl List.nil_infix
          · exact fun ts tokens plain text member => spelled_tokens? tokens member
      · cases decoded
  · cases decoded

/-! ## What is overlooked -/

theorem flag_or_onlyEscaped {source : String} {d : Document} (decoded : Document.ofText source = .ok d)
    (k : SectionKind) (has : d.has k = true) :
    (Sections.mentioned source).flag k = true ∨ OnlyEscaped source k := by
  by_cases stands : k.name.toList <:+: source.toList
  · exact .inl ((flag_mentioned source k).mpr stands)
  · obtain stands' | escaped := spelled_of_has decoded k has k.solid_name
    · exact absurd stands' stands
    · exact .inr ⟨escaped, stands⟩

theorem bundle_of_no_section {d : Document} {name source : String}
    (none : (d.bundle name source).sections.any = false) :
    d.bundle name source = .empty name source := by
  obtain ⟨parameters, outputs, tags⟩ := d
  simp only [Sections.any, Document.bundle, Bool.or_eq_false_iff, Option.isSome_eq_false_iff,
    Option.isNone_iff_eq_none] at none
  obtain ⟨⟨rfl, rfl⟩, noTags⟩ := none
  simp only [Document.bundle, noTags]
  rfl

theorem sections_of_empty (name source : String) :
    (Bundle.empty name source).sections.any = false := rfl

/-- A text is compiled as if it were always decoded, unless none of the sections it has is found. -/
theorem compile_eq_bundle_iff {source : String} {d : Document} (decoded : Document.ofText source = .ok d)
    (name : String) : compile name source = .ok (d.bundle name source) ↔
      ((d.bundle name source).sections.any = true → (Sections.mentioned source).any = true) := by
  unfold compile
  rw [decoded]
  cases (Sections.mentioned source).any with
  | true => exact ⟨fun _ _ => rfl, fun _ => rfl⟩
  | false =>
      constructor
      · intro same shown
        have empty : Bundle.empty name source = d.bundle name source := Except.ok.inj same
        rw [← empty, sections_of_empty] at shown
        cases shown
      · intro unshown
        have none : (d.bundle name source).sections.any = false :=
          Bool.eq_false_iff.mpr fun shown => nomatch unshown shown
        rw [bundle_of_no_section none]
        rfl

theorem has_of_shown {d : Document} {name source : String}
    (shown : (d.bundle name source).sections.any = true) : ∃ k, d.has k = true := by
  obtain ⟨k, flag⟩ := (Sections.any_iff _).mp shown
  refine ⟨k, ?_⟩
  cases k with
  | parameters => exact flag
  | outputs => exact flag
  | tags =>
      obtain ⟨text, printed⟩ := Option.isSome_iff_exists.mp flag
      obtain ⟨v, tags, -⟩ := Option.bind_eq_some_iff.mp printed
      simp only [Document.has, tags, Option.isSome_some]

/-- Every section of a document is found, and the bundle is that of the document, just where no key of
a section is spelled with escapes only. -/
theorem sections_found_iff (source : String) (d : Document) (decoded : Document.ofText source = .ok d) :
    ((∀ k, d.has k = true → (Sections.mentioned source).flag k = true) ∧
      ∀ name, compile name source = .ok (d.bundle name source)) ↔
    ∀ k, d.has k = true → ¬ OnlyEscaped source k := by
  constructor
  · rintro ⟨found, -⟩ k has ⟨-, missing⟩
    exact missing ((flag_mentioned source k).mp (found k has))
  · intro plain
    have found : ∀ k, d.has k = true → (Sections.mentioned source).flag k = true := by
      intro k has
      obtain found | escaped := flag_or_onlyEscaped decoded k has
      · exact found
      · exact absurd escaped (plain k has)
    refine ⟨found, fun name => (compile_eq_bundle_iff decoded name).mpr fun shown => ?_⟩
    obtain ⟨k, has⟩ := has_of_shown shown
    exact (Sections.any_iff _).mpr ⟨k, found k has⟩

/-- One parameter without any field. -/
def bareParameter : Document := ⟨some [("a", .mapping [])], none, none⟩

/-- The key is escaped, and a comment has it as it is. -/
def remarkedKey : String := "\"\\x70arameters\": \x7ba: \x7b\x7d\x7d # parameters\n"

theorem ofText_remarkedKey : Document.ofText remarkedKey = .ok bareParameter := by cbv

theorem sections_found_iff_remarkedKey :
    Document.ofText remarkedKey = .ok bareParameter ∧
    ∀ name, compile name remarkedKey = .ok (bareParameter.bundle name remarkedKey) := by
  refine ⟨ofText_remarkedKey, ((sections_found_iff _ _ ofText_remarkedKey).mpr ?_).2⟩
  intro k has onlyEscaped
  cases k with
  | parameters =>
      have found : (Sections.mentioned remarkedKey).flag .parameters = true := by decide +kernel
      exact onlyEscaped.2 ((flag_mentioned _ _).mp found)
  | outputs => cases has
  | tags => cases has

def escapedKey : String := "\"\\x70arameters\": \x7ba: \x7b\x7d\x7d\n"

theorem escapedKey_overlooked :
    Document.ofText escapedKey = .ok bareParameter ∧ bareParameter.has .parameters = true ∧
    (Sections.mentioned escapedKey).flag .parameters = false ∧
    compile "t" escapedKey ≠ .ok (bareParameter.bundle "t" escapedKey) := by
  have decoded : Document.ofText escapedKey = .ok bareParameter := by cbv
  have missed : Sections.mentioned escapedKey = .none := by decide +kernel
  refine ⟨decoded, rfl, by rw [missed]; rfl, fun same => ?_⟩
  have found := (compile_eq_bundle_iff decoded "t").mp same rfl
  rw [missed] at found
  cases found

end HeatStack.Template
