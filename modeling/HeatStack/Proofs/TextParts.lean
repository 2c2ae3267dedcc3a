import HeatStack.Text.Ascii
import HeatStack.Text.Blank
import Mathlib

/-! # Parts of a text

The parts of a text between separators, those before and behind the first separator, and the part between the
blanks at its ends. -/
set_option autoImplicit false
namespace HeatStack.Text

theorem splitOn_eq (sep : Char) (cs : List Char) : splitOn sep cs = cs.splitOn sep := by
  induction cs with
  | nil => rfl
  | cons c cs ih =>
      rw [splitOn, ih, List.splitOn, List.splitOn, List.splitOnP_cons_eq_if_modifyHead]
      by_cases here : c = sep
      · rw [if_pos here, if_pos (beq_iff_eq.mpr here)]
      · rw [if_neg here, if_neg (by simpa using here)]
        cases split : cs.splitOnP (· == sep) with
        | nil => exact absurd split (List.splitOnP_ne_nil _ _)
        | cons part parts => rfl

theorem not_mem_of_mem_splitOn {sep : Char} {part : List Char} : ∀ {cs : List Char},
    part ∈ splitOn sep cs → sep ∉ part := by
  intro cs
  induction cs generalizing part with
  | nil =>
      intro member
      cases List.mem_singleton.mp member
      exact List.not_mem_nil
  | cons c cs ih =>
      intro member
      rw [splitOn] at member
      split at member
      · rcases List.mem_cons.mp member with rfl | later
        · exact List.not_mem_nil
        · exact ih later
      · next other =>
        split at member
        · cases List.mem_singleton.mp member
          exact fun found => other (List.mem_singleton.mp found).symm
        · next first parts split =>
          rcases List.mem_cons.mp member with rfl | later
          · have free : sep ∉ first := ih (split ▸ List.mem_cons_self ..)
            exact fun found => (List.mem_cons.mp found).elim (fun same => other same.symm) free
          · exact ih (split ▸ List.mem_cons_of_mem _ later)

/-- A separator between two texts parts what they are split into. -/
theorem splitOn_append_cons (sep : Char) (as bs : List Char) :
    splitOn sep (as ++ sep :: bs) = splitOn sep as ++ splitOn sep bs := by
  rw [splitOn_eq, splitOn_eq, splitOn_eq]
  exact List.splitOnP_append_cons as bs (beq_self_eq_true sep)

theorem splitOn_of_not_mem {sep : Char} {cs : List Char} (free : sep ∉ cs) : splitOn sep cs = [cs] := by
  rw [splitOn_eq]
  refine List.splitOnP_eq_singleton fun c member => ?_
  exact beq_eq_false_iff_ne.mpr fun same => free (same ▸ member)

/-! ## The first separator -/

theorem splitOnce_eq_none_iff {sep : Char} {cs : List Char} : splitOnce sep cs = none ↔ sep ∉ cs := by
  induction cs with
  | nil => simp [splitOnce]
  | cons c cs ih =>
      rw [splitOnce, List.mem_cons]
      by_cases here : c = sep
      · simp [here]
      · rw [if_neg here, Option.map_eq_none_iff, ih]
        simp [Ne.symm here]

theorem splitOnce_append {sep : Char} {before : List Char} (after : List Char) (free : sep ∉ before) :
    splitOnce sep (before ++ sep :: after) = some (before, after) := by
  induction before with
  | nil => simp [splitOnce]
  | cons c before ih =>
      obtain ⟨other, free⟩ := List.ne_and_not_mem_of_not_mem_cons free
      rw [List.cons_append, splitOnce, if_neg (Ne.symm other), ih free]
      rfl

/-- A text is split at the first separator. -/
theorem splitOnce_eq_some_iff {sep : Char} {cs before after : List Char} :
    splitOnce sep cs = some (before, after) ↔ sep ∉ before ∧ cs = before ++ sep :: after := by
  constructor
  · intro split
    induction cs generalizing before with
    | nil => cases split
    | cons c cs ih =>
        rw [splitOnce] at split
        by_cases here : c = sep
        · rw [if_pos here] at split
          cases split
          exact ⟨List.not_mem_nil, by rw [here, List.nil_append]⟩
        · rw [if_neg here, Option.map_eq_some_iff] at split
          obtain ⟨⟨front, back⟩, rest, same⟩ := split
          cases same
          obtain ⟨free, rfl⟩ := ih rest
          exact ⟨List.not_mem_cons_of_ne_of_not_mem (Ne.symm here) free, rfl⟩
  · rintro ⟨free, rfl⟩
    exact splitOnce_append after free

/-! ## Blanks -/

theorem trimChars_eq_nil_iff (cs : List Char) : trimChars cs = [] ↔ ∀ c ∈ cs, isBlank c = true := by
  have right : trimChars cs = (trimLeft cs).rdropWhile isBlank := rfl
  rw [right, List.rdropWhile_eq_nil_iff]
  constructor
  · intro blank c member
    rw [← List.takeWhile_append_dropWhile (p := isBlank) (l := cs), List.mem_append] at member
    rcases member with front | back
    · exact List.mem_takeWhile_imp front
    · exact blank c back
  · intro blank c member
    exact blank c ((List.dropWhile_suffix isBlank).subset member)

theorem trim_eq_empty_iff (s : String) : trim s = "" ↔ allBlank s = true := by
  rw [trim, String.ofList_eq_empty_iff, trimChars_eq_nil_iff, allBlank, List.all_eq_true]

end HeatStack.Text
