import HeatStack.Proofs.SecretMasking

/-! # The default that a template declares

The default of a parameter in a bundle is the text of what its entry declares, unless nothing of the entry
could be read. -/
set_option autoImplicit false
namespace HeatStack.Template
open HeatStack.Yaml

/-- The entry of a parameter declares this value as its default. -/
def Declares (source name : String) (v : Value) : Prop :=
  ∃ d entry fields, Document.ofText source = .ok d ∧ d.Binds name entry ∧
    entry.fields? parameterKeys = some fields ∧ fields.lookup "default" = some v

section
variable {t source name : String} {b : Bundle} {p : Parameter} {v : Value}

/-- A parameter of a bundle is read of the entry that its name is bound to. -/
theorem ofEntry_of_compile (compiled : compile t source = .ok b)
    (found : b.parameters.get? name = some p) {d : Document} {entry : Value}
    (decoded : Document.ofText source = .ok d) (bound : d.Binds name entry) :
    p = Parameter.ofEntry name entry := by
  obtain ⟨-, rfl⟩ | ⟨-, d', decoded', rfl⟩ := compile_eq_ok t source b compiled
  · cases found
  · cases decoded.symm.trans decoded'
    rw [Document.bundle, get?_entryTable, (d.lookup_reverse_iff name entry).mpr bound] at found
    exact (Option.some.inj found).symm

/-- Nothing and null have no text, and any other default the text of its kind. -/
theorem default_of_declares (compiled : compile t source = .ok b)
    (found : b.parameters.get? name = some p) (declared : Declares source name v)
    (read : p ≠ .bare name .string) : p.default = defaultText? p.type v := by
  obtain ⟨d, entry, fields, decoded, bound, known, stands⟩ := declared
  have same := ofEntry_of_compile compiled found decoded bound
  cases entryRead : Parameter.ofEntry? name entry with
  | none =>
      rw [Parameter.ofEntry, entryRead] at same
      exact absurd same read
  | some q =>
      rw [Parameter.ofEntry, entryRead, Option.getD_some] at same
      subst same
      obtain ⟨fields', o, known', taken, text⟩ := default_of_ofEntry? entryRead
      cases known.symm.trans known'
      by_cases null : v = .null
      · subst null
        rw [Value.optional?, stands] at taken
        cases taken
        rw [text]
        rfl
      · rw [text, (optional?_eq_some_iff taken v).mpr ⟨stands, null⟩, Option.bind_some]

theorem default_of_list (compiled : compile t source = .ok b)
    (found : b.parameters.get? name = some p) (declared : Declares source name v)
    (list : p.type = .commaDelimitedList) : p.default = defaultText? .commaDelimitedList v := by
  rw [← list]
  refine default_of_declares compiled found declared ?_
  rintro rfl
  cases list

theorem default_of_kept {text : String} (compiled : compile t source = .ok b)
    (found : b.parameters.get? name = some p) (declared : Declares source name v)
    (kept : p.default = some text) : defaultText? p.type v = some text := by
  rw [← kept]
  refine (default_of_declares compiled found declared ?_).symm
  rintro rfl
  cases kept

end
end HeatStack.Template
