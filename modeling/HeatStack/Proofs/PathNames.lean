import HeatStack.Files.Tree
import HeatStack.Proofs.TextParts

/-! # Paths that end in a name

A path to a file ends in a name, and the temporary path beside it differs in that name alone
(`Names.temporary`): the steps before it and the root are the same. -/
set_option autoImplicit false
namespace HeatStack.Files
open HeatStack.Text

/-! ## Names -/

def temporaryName (name : FilePath.Step) : FilePath.Step :=
  FilePath.stemOf name ++ '.' :: "json.tmp".toList

theorem prefix_stemOf (name : FilePath.Step) : FilePath.stemOf name <+: name := by
  unfold FilePath.stemOf
  split
  · exact List.prefix_rfl
  · have suffix : (name.reverse.dropWhile (· != '.')).drop 1 <:+ name.reverse :=
      (List.drop_suffix 1 _).trans (List.dropWhile_suffix _)
    simpa using List.reverse_prefix.mpr suffix

theorem stemOf_temporaryName (name : FilePath.Step) :
    FilePath.stemOf (temporaryName name) = FilePath.stemOf name ++ ".json".toList := by
  have reversed : (temporaryName name).reverse =
      ['p', 'm', 't'] ++ '.' :: ['n', 'o', 's', 'j', '.'] ++ (FilePath.stemOf name).reverse := by
    simp [temporaryName]
  rw [FilePath.stemOf, reversed]
  simp

theorem temporaryName_ne (name : FilePath.Step) : temporaryName name ≠ name := by
  intro same
  have longer := stemOf_temporaryName name
  rw [same] at longer
  simpa using congrArg List.length longer

theorem length_temporaryName (name : FilePath.Step) : 8 < (temporaryName name).length := by
  simp [temporaryName]

theorem temporaryName_injective_stem {a b : FilePath.Step} :
    temporaryName a = temporaryName b ↔ FilePath.stemOf a = FilePath.stemOf b :=
  List.append_left_inj _

theorem slash_temporaryName {name : FilePath.Step} (free : '/' ∉ name) :
    '/' ∉ temporaryName name := by
  have stem : '/' ∉ FilePath.stemOf name := fun found => free ((prefix_stemOf name).subset found)
  simp [temporaryName, stem]

/-! ## Paths -/

theorem intercalate_concat (sep : List Char) (parts : List (List Char)) (last : List Char) :
    sep.intercalate (parts ++ [last]) = parts.flatMap (· ++ sep) ++ last := by
  induction parts with
  | nil => simp [List.intercalate]
  | cons part parts ih =>
      obtain ⟨next, rest, same⟩ : ∃ next rest, parts ++ [last] = next :: rest :=
        List.exists_cons_of_ne_nil (by simp)
      rw [List.cons_append, same, List.intercalate_cons_cons, ← same, ih]
      simp

/-- The path is the steps `above`, last step first, and then the name. -/
structure Names (p : FilePath) (above : List FilePath.Step) (name : FilePath.Step) : Prop where
  backwards : p.backwards = name :: above
  proper : name ≠ [] ∧ name ≠ ['.'] ∧ name ≠ ['.', '.']

theorem split_of_backwards {p : FilePath} {above : List FilePath.Step} {name : FilePath.Step}
    (backwards : p.backwards = name :: above) :
    splitOn '/' p.text.toList = above.reverse ++ [name] := by
  rw [← List.reverse_reverse (splitOn '/' p.text.toList)]
  exact (congrArg List.reverse backwards).trans (List.reverse_cons ..)

theorem text_of_backwards {p : FilePath} {above : List FilePath.Step} {name : FilePath.Step}
    (backwards : p.backwards = name :: above) :
    p.text.toList = above.reverse.flatMap (· ++ ['/']) ++ name := by
  rw [← intercalate_concat, ← split_of_backwards backwards, splitOn_eq]
  exact (List.intercalate_splitOn _).symm

theorem exists_backwards (p : FilePath) : ∃ name above, p.backwards = name :: above := by
  refine List.exists_cons_of_ne_nil fun empty => ?_
  rw [FilePath.backwards, List.reverse_eq_nil_iff, splitOn_eq] at empty
  exact List.splitOn_ne_nil _ _ empty

theorem endsOpen_of_backwards {p : FilePath} {above : List FilePath.Step}
    (backwards : p.backwards = [] :: above) (filled : p.text ≠ "") : Tree.endsOpen p = true := by
  have text := text_of_backwards backwards
  rw [List.append_nil] at text
  obtain ⟨s, higher, same⟩ : ∃ s higher, above = s :: higher := by
    refine List.exists_cons_of_ne_nil ?_
    rintro rfl
    exact filled (String.toList_eq_nil_iff.mp text)
  rw [Tree.endsOpen, text, same]
  simp

namespace Names
variable {p : FilePath} {above : List FilePath.Step} {name : FilePath.Step}

theorem steps (named : Names p above name) :
    Tree.stepsOf p = (above.reverse.filter fun s => s != []) ++ [name] := by
  rw [Tree.stepsOf, split_of_backwards named.backwards, List.filter_append]
  simp [named.proper.1]

theorem slash_free (named : Names p above name) : ∀ s ∈ above.reverse ++ [name], '/' ∉ s := by
  intro s member
  rw [← split_of_backwards named.backwards] at member
  exact not_mem_of_mem_splitOn member

theorem split? (named : Names p above name) : p.split? = some (name, above) := by
  have idle : FilePath.isIdle name = false := by
    simp [FilePath.isIdle, named.proper]
  have head : (FilePath.prefixes (name :: above)).head? = some (name :: above) := by
    cases above with
    | nil => rfl
    | cons s above => simp [FilePath.prefixes, idle]
  rw [FilePath.split?, named.backwards, head]
  simp [idle, named.proper]

theorem ends (named : Names p above name) : Tree.endsOpen p = false := by
  have slash : name.getLast? ≠ some '/' := fun last =>
    named.slash_free name (by simp) (List.mem_of_getLast? last)
  rw [Tree.endsOpen, text_of_backwards named.backwards, List.getLast?_append_of_ne_nil _ named.proper.1]
  simpa using slash

/-- A path is rooted by the steps before its name. -/
theorem rooted (named : Names p above name) :
    p.isRooted = ((above.reverse.flatMap (· ++ ['/'])).head? == some '/') := by
  have slash : name.head? ≠ some '/' := fun first =>
    named.slash_free name (by simp) (List.mem_of_head? first)
  rw [FilePath.isRooted, text_of_backwards named.backwards, List.head?_append]
  cases (above.reverse.flatMap (· ++ ['/'])).head? with
  | none => simpa using slash
  | some c => rfl

/-- The temporary path has the temporary name in the same place. -/
theorem temporary (named : Names p above name) :
    Names (Disk.temporary p) above (temporaryName name) := by
  have long := length_temporaryName name
  have proper : temporaryName name ≠ [] ∧ temporaryName name ≠ ['.'] ∧
      temporaryName name ≠ ['.', '.'] := by
    refine ⟨?_, ?_, ?_⟩ <;> intro same <;> simp [same] at long
  have text : (Disk.temporary p).text =
      String.ofList (['/'].intercalate (above.reverse ++ [temporaryName name])) := by
    rw [Disk.temporary, FilePath.withExtension, named.split?]
    change (FilePath.ofBackwards p.isRooted (temporaryName name :: above)).text = _
    simp [FilePath.ofBackwards, proper.1]
  refine ⟨?_, proper⟩
  rw [FilePath.backwards, text, String.toList_ofList, splitOn_eq, List.splitOn_intercalate]
  · simp
  · intro s member
    rcases List.mem_append.mp member with before | last
    · exact named.slash_free s (List.mem_append_left _ before)
    · rw [List.mem_singleton.mp last]
      exact slash_temporaryName (named.slash_free name (by simp))
  · simp

theorem rooted_temporary (named : Names p above name) :
    (Disk.temporary p).isRooted = p.isRooted := by
  rw [named.temporary.rooted, named.rooted]

end Names

/-- A path that ends in no name has itself as its temporary path. -/
theorem temporary_of_upwards {p : FilePath} {above : List FilePath.Step}
    (backwards : p.backwards = ['.', '.'] :: above) : Disk.temporary p = p := by
  have head : (FilePath.prefixes (['.', '.'] :: above)).head? = some (['.', '.'] :: above) := by
    cases above <;> rfl
  rw [Disk.temporary, FilePath.withExtension, FilePath.split?, backwards, head]
  rfl

/-! ## Paths above -/

theorem prefixes_cons_cons (s s' : FilePath.Step) (rest : List FilePath.Step) :
    FilePath.prefixes (s :: s' :: rest) = if FilePath.isIdle s then FilePath.prefixes (s' :: rest)
      else (s :: s' :: rest) :: FilePath.prefixes (s' :: rest) := rfl

theorem prefixes_suffix : ∀ {steps s : List FilePath.Step}, s ∈ FilePath.prefixes steps →
    s <:+ steps ∧ s ≠ [] ∧ (FilePath.prefixes s).head? = some s := by
  intro steps
  induction steps with
  | nil =>
      intro s member
      cases member
  | cons step steps ih =>
      intro s member
      cases steps with
      | nil =>
          cases List.mem_singleton.mp member
          exact ⟨List.suffix_rfl, List.cons_ne_nil _ _, rfl⟩
      | cons step' steps =>
          rw [prefixes_cons_cons] at member
          split at member
          · obtain ⟨suffix, rest⟩ := ih member
            exact ⟨suffix.trans (List.suffix_cons ..), rest⟩
          · next busy =>
            rcases List.mem_cons.mp member with rfl | later
            · refine ⟨List.suffix_rfl, List.cons_ne_nil _ _, ?_⟩
              rw [prefixes_cons_cons, if_neg busy]
              rfl
            · obtain ⟨suffix, rest⟩ := ih later
              exact ⟨suffix.trans (List.suffix_cons ..), rest⟩

/-- A path above another is the first of its own line. -/
theorem lineage_of_mem {p q : FilePath} (member : q ∈ p.lineage) :
    ∃ above, q.lineage = q :: above := by
  obtain ⟨member, filled⟩ := List.mem_filter.mp member
  obtain ⟨s, inside, rfl⟩ := List.mem_map.mp member
  obtain ⟨suffix, notEmpty, first⟩ := prefixes_suffix inside
  obtain ⟨more, same⟩ := List.head?_eq_some_iff.mp first
  by_cases root : p.isRooted && s == [[]]
  · have slash : FilePath.ofBackwards p.isRooted s = ⟨"/"⟩ := by
      rw [FilePath.ofBackwards, if_pos root]
    exact ⟨[], by rw [slash]; rfl⟩
  · have text : (FilePath.ofBackwards p.isRooted s).text =
        String.ofList (['/'].intercalate s.reverse) := by
      rw [FilePath.ofBackwards, if_neg root]
    have backwards : (FilePath.ofBackwards p.isRooted s).backwards = s := by
      rw [FilePath.backwards, text, String.toList_ofList, splitOn_eq, List.splitOn_intercalate]
      · exact List.reverse_reverse s
      · intro part part_mem
        have inPath : part ∈ p.backwards := suffix.subset (List.mem_reverse.mp part_mem)
        exact not_mem_of_mem_splitOn (List.mem_reverse.mp inPath)
      · simpa using notEmpty
    have again : ∀ rooted, FilePath.ofBackwards rooted s = FilePath.ofBackwards p.isRooted s := by
      intro rooted
      have other : s ≠ [[]] := by
        rintro rfl
        rw [text] at filled
        simp [List.intercalate] at filled
      simp [FilePath.ofBackwards, other]
    refine ⟨(more.map (FilePath.ofBackwards (FilePath.ofBackwards p.isRooted s).isRooted)).filter
      fun q => q.text != "", ?_⟩
    rw [FilePath.lineage, backwards, same, List.map_cons, again, List.filter_cons, if_pos filled]

theorem lineage_parent {p above : FilePath} (parent : p.parent? = some above) :
    ∃ rest, above.lineage = above :: rest :=
  lineage_of_mem (p := p) (List.mem_of_mem_drop (List.mem_of_head? parent))

end HeatStack.Files
