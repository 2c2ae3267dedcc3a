import HeatStack.Proofs.PathNames

/-! # Where a path puts a file

A path to a file leads to a directory and names a file in it (`Tree.target?`).  That depends on the
directories of the tree alone, and reading, writing and moving a file are looks at that one place. -/
set_option autoImplicit false
namespace HeatStack.Files

/-- Where the path of a file leads: the directory, and the name in it. -/
def Tree.target? (t : Tree) (p : FilePath) : Option (Place × FilePath.Step) :=
  match t.reachParent p with
  | .ok (directory, some name) =>
    if endsOpen p || longestName < (String.ofList name).utf8ByteSize then none
    else some (directory, name)
  | _ => none

theorem bind_eq_ok_iff {ε α β : Type} {x : Except ε α} {f : α → Except ε β} {b : β} :
    (x >>= f) = .ok b ↔ ∃ a, x = .ok a ∧ f a = .ok b := by
  cases x <;> simp [bind, Except.bind]

namespace Tree

/-- The two trees differ in files alone. -/
structure SameDirectories (t u : Tree) : Prop where
  workingDirectory : u.workingDirectory = t.workingDirectory
  directory : ∀ place, u.isDirectoryAt place = t.isDirectoryAt place

theorem SameDirectories.refl (t : Tree) : t.SameDirectories t := ⟨rfl, fun _ => rfl⟩

theorem SameDirectories.symm {t u : Tree} (same : t.SameDirectories u) : u.SameDirectories t :=
  ⟨same.workingDirectory.symm, fun place => (same.directory place).symm⟩

theorem SameDirectories.trans {t u v : Tree} (first : t.SameDirectories u)
    (second : u.SameDirectories v) : t.SameDirectories v :=
  ⟨second.workingDirectory.trans first.workingDirectory,
    fun place => (second.directory place).trans (first.directory place)⟩

theorem isDirectoryAt_iff (t : Tree) (place : Place) :
    t.isDirectoryAt place = true ↔ t.find? place = some .directory := by
  simp [isDirectoryAt]

/-! ## Following a path -/

theorem follow_append (t : Tree) (before behind : List FilePath.Step) (here : Place) :
    t.follow here (before ++ behind) = (t.follow here before).bind fun d => t.follow d behind := by
  induction before generalizing here with
  | nil => rfl
  | cons s before ih =>
      rw [List.cons_append, follow, follow]
      cases t.step here s with
      | error fault => rfl
      | ok next => exact ih next

theorem place?_eq_ok_iff (d : Place) (name : FilePath.Step) (place : Place) :
    place? d name = .ok place ↔
      (String.ofList name).utf8ByteSize ≤ longestName ∧ place = d ++ [name] := by
  unfold place?
  by_cases long : longestName < (String.ofList name).utf8ByteSize
  · simp [long, Nat.not_le.mpr long]
  · simpa [long, Nat.le_of_not_lt long] using eq_comm

theorem step_eq_ok_iff (t : Tree) (here : Place) (s : FilePath.Step) (place : Place) :
    t.step here s = .ok place ↔ t.isDirectoryAt here = true ∧
      ((s = ['.'] ∧ place = here) ∨ (s = ['.', '.'] ∧ place = here.dropLast) ∨
        (s ≠ ['.'] ∧ s ≠ ['.', '.'] ∧ place = here ++ [s] ∧
          (String.ofList s).utf8ByteSize ≤ longestName ∧ (t.find? place).isSome = true)) := by
  unfold step
  cases directory : t.isDirectoryAt here with
  | false => simp
  | true =>
      by_cases dot : s = ['.']
      · simp only [dot]
        simpa using eq_comm
      · by_cases dots : s = ['.', '.']
        · simp only [dots]
          simpa using eq_comm
        · simp only [Bool.not_true, Bool.false_eq_true, if_false, dot, dots, bind_eq_ok_iff,
            place?_eq_ok_iff, true_and, false_and, false_or, ne_eq, not_false_eq_true]
          constructor
          · rintro ⟨_, ⟨short, rfl⟩, found⟩
            split at found
            · next there =>
              cases found
              exact ⟨rfl, short, there⟩
            · cases found
          · rintro ⟨rfl, short, there⟩
            exact ⟨_, ⟨short, rfl⟩, if_pos there⟩

theorem directory_of_follow {t : Tree} {here place : Place} {steps : List FilePath.Step}
    (followed : t.follow here steps = .ok place) (directory : t.isDirectoryAt place = true) :
    t.isDirectoryAt here = true := by
  cases steps with
  | nil =>
      cases followed
      exact directory
  | cons s steps =>
      rw [follow] at followed
      cases stepped : t.step here s with
      | error fault =>
          rw [stepped] at followed
          cases followed
      | ok next => exact ((step_eq_ok_iff t here s next).mp stepped).1

/-- A path to a directory leads through directories, so files do not matter to it. -/
theorem follow_of_same {t u : Tree} (same : t.SameDirectories u) {place : Place}
    (directory : t.isDirectoryAt place = true) : ∀ (steps : List FilePath.Step) (here : Place),
      t.follow here steps = .ok place → u.follow here steps = .ok place := by
  intro steps
  induction steps with
  | nil => exact fun here followed => followed
  | cons s steps ih =>
      intro here followed
      rw [follow] at followed ⊢
      cases stepped : t.step here s with
      | error fault =>
          rw [stepped] at followed
          cases followed
      | ok next =>
          rw [stepped] at followed
          have inner : t.isDirectoryAt next = true := directory_of_follow followed directory
          have outer := (step_eq_ok_iff t here s next).mp stepped
          have there : (u.find? next).isSome = true := by
            rw [(isDirectoryAt_iff u next).mp ((same.directory next).trans inner)]
            rfl
          have stepped' : u.step here s = .ok next := by
            refine (step_eq_ok_iff u here s next).mpr ⟨(same.directory here).trans outer.1, ?_⟩
            rcases outer.2 with dot | dots | ⟨notDot, notDots, next, short, -⟩
            · exact .inl dot
            · exact .inr (.inl dots)
            · exact .inr (.inr ⟨notDot, notDots, next, short, there⟩)
          rw [stepped']
          exact ih next followed

theorem start_of_same {t u : Tree} (same : t.SameDirectories u) (p : FilePath) :
    u.start p = t.start p := by
  unfold start
  rw [same.workingDirectory]

/-! ## The target of a path -/

/-- The directory that the steps before the name lead to, and the name. -/
structure Targets (t : Tree) (p : FilePath) (above : List FilePath.Step) (d : Place)
    (name : FilePath.Step) : Prop where
  names : Names p above name
  checked : checkPath p = .ok ()
  short : (String.ofList name).utf8ByteSize ≤ longestName
  followed : t.follow (t.start p) (above.reverse.filter fun s => s != []) = .ok d
  directory : t.isDirectoryAt d = true

theorem reachParent_eq_ok_iff (t : Tree) (p : FilePath) (d : Place) (name? : Option FilePath.Step) :
    t.reachParent p = .ok (d, name?) ↔ checkPath p = .ok () ∧
      t.follow (t.start p) (stepsOf p).dropLast = .ok d ∧ t.isDirectoryAt d = true ∧
      name? = (stepsOf p).getLast?.filter fun s => s != ['.'] && s != ['.', '.'] := by
  simp only [reachParent, bind_eq_ok_iff]
  constructor
  · rintro ⟨⟨⟩, checked, place, followed, found⟩
    split at found
    · cases found
    · next directory =>
      cases found
      exact ⟨checked, followed, by simpa using directory, rfl⟩
  · rintro ⟨checked, followed, directory, rfl⟩
    exact ⟨(), checked, d, followed, if_neg (by simp [directory])⟩

theorem target?_eq_some_iff_reached (t : Tree) (p : FilePath) (d : Place) (name : FilePath.Step) :
    t.target? p = some (d, name) ↔ t.reachParent p = .ok (d, some name) ∧ endsOpen p = false ∧
      (String.ofList name).utf8ByteSize ≤ longestName := by
  unfold target?
  split
  · next directory last reached =>
    simp only [Bool.or_eq_true, decide_eq_true_eq, reached, Except.ok.injEq, Prod.mk.injEq,
      Option.some.injEq]
    split
    · next unfit =>
      refine iff_of_false nofun ?_
      rintro ⟨⟨rfl, rfl⟩, ends, short⟩
      rcases unfit with opened | long
      · cases ends.symm.trans opened
      · exact Nat.not_lt.mpr short long
    · next fits =>
      simp only [not_or, Bool.not_eq_true, Nat.not_lt] at fits
      simp only [Option.some.injEq, Prod.mk.injEq]
      refine ⟨?_, fun given => given.1⟩
      rintro ⟨rfl, rfl⟩
      exact ⟨⟨rfl, rfl⟩, fits⟩
  · next other => exact iff_of_false nofun fun given => other _ _ given.1

theorem text_ne_of_checked {p : FilePath} (checked : checkPath p = .ok ()) : p.text ≠ "" := by
  intro empty
  simp [checkPath, empty] at checked

theorem target?_eq_some_iff (t : Tree) (p : FilePath) (d : Place) (name : FilePath.Step) :
    t.target? p = some (d, name) ↔ ∃ above, t.Targets p above d name := by
  rw [target?_eq_some_iff_reached, reachParent_eq_ok_iff]
  constructor
  · rintro ⟨⟨checked, followed, directory, last⟩, ends, short⟩
    obtain ⟨last', above, backwards⟩ := exists_backwards p
    have filled : last' ≠ [] := by
      rintro rfl
      cases (endsOpen_of_backwards backwards (text_ne_of_checked checked)).symm.trans ends
    have steps : stepsOf p = (above.reverse.filter fun s => s != []) ++ [last'] := by
      rw [stepsOf, split_of_backwards backwards, List.filter_append]
      simp [filled]
    rw [steps, List.getLast?_concat] at last
    obtain ⟨same, proper⟩ := Option.filter_eq_some_iff.mp last.symm
    cases same
    simp only [bne_iff_ne, ne_eq, Bool.and_eq_true] at proper
    rw [steps, List.dropLast_concat] at followed
    exact ⟨above, ⟨backwards, filled, proper⟩, checked, short, followed, directory⟩
  · rintro ⟨above, named, checked, short, followed, directory⟩
    refine ⟨⟨checked, ?_, directory, ?_⟩, named.ends, short⟩
    · rw [named.steps, List.dropLast_concat]
      exact followed
    · rw [named.steps, List.getLast?_concat]
      exact (Option.filter_eq_some_iff.mpr ⟨rfl, by simp [named.proper]⟩).symm

/-- Files have no part in where a path leads. -/
theorem target?_of_same {t u : Tree} (same : t.SameDirectories u) (p : FilePath) :
    u.target? p = t.target? p := by
  have onward : ∀ {t u : Tree}, t.SameDirectories u → ∀ target, t.target? p = some target →
      u.target? p = some target := by
    rintro t u same ⟨d, name⟩ found
    obtain ⟨above, targets⟩ := (target?_eq_some_iff t p d name).mp found
    refine (target?_eq_some_iff u p d name).mpr ⟨above, targets.names, targets.checked,
      targets.short, ?_, (same.directory d).trans targets.directory⟩
    rw [start_of_same same]
    exact follow_of_same same targets.directory _ _ targets.followed
  exact Option.ext fun target => ⟨onward same.symm target, onward same target⟩

/-- The temporary file lies beside the file. -/
theorem target?_temporary {t : Tree} {p : FilePath} {d d' : Place} {name name' : FilePath.Step}
    (found : t.target? p = some (d, name))
    (beside : t.target? (Disk.temporary p) = some (d', name')) :
    d' = d ∧ name' = temporaryName name := by
  obtain ⟨above, targets⟩ := (target?_eq_some_iff t p d name).mp found
  obtain ⟨above', targets'⟩ := (target?_eq_some_iff t _ d' name').mp beside
  obtain ⟨rfl, rfl⟩ := List.cons.inj (targets.names.temporary.backwards.symm.trans targets'.names.backwards)
  have start : t.start (Disk.temporary p) = t.start p := by
    rw [start, start, targets.names.rooted_temporary]
  have followed := targets'.followed
  rw [start] at followed
  exact ⟨Except.ok.inj (followed.symm.trans targets.followed), rfl⟩

/-! ## Files at a target -/

theorem reach_of_target {t : Tree} {p : FilePath} {d : Place} {name : FilePath.Step}
    (found : t.target? p = some (d, name)) :
    t.reach p = match t.find? (d ++ [name]) with
      | none => .error .missing
      | some node => .ok (d ++ [name], node) := by
  obtain ⟨above, targets⟩ := (target?_eq_some_iff t p d name).mp found
  have followed : t.follow (t.start p) (stepsOf p) =
      if (t.find? (d ++ [name])).isSome then .ok (d ++ [name]) else .error .missing := by
    rw [targets.names.steps, follow_append, targets.followed]
    have named : t.step d name =
        if (t.find? (d ++ [name])).isSome then .ok (d ++ [name]) else .error .missing := by
      simp [step, place?, targets.directory, targets.names.proper, Nat.not_lt.mpr targets.short,
        bind, Except.bind]
    rw [Except.bind, follow, named]
    cases (t.find? (d ++ [name])).isSome <;> rfl
  unfold reach
  rw [targets.checked, followed]
  cases there : t.find? (d ++ [name]) with
  | none => simp [bind, Except.bind]
  | some node => cases node <;> simp [bind, Except.bind, there, targets.names.ends]

theorem read_of_target {t : Tree} {p : FilePath} {d : Place} {name : FilePath.Step}
    (found : t.target? p = some (d, name)) :
    t.read p = match t.find? (d ++ [name]) with
      | none => .error .missing
      | some (.file content) => .ok content
      | some .directory => .error .isDirectory := by
  rw [read, reach_of_target found]
  cases t.find? (d ++ [name]) with
  | none => rfl
  | some node => cases node <;> rfl

theorem write_eq_ok_iff (t : Tree) (p : FilePath) (content : Bytes) (u : Tree) :
    t.write p content = .ok u ↔ ∃ d name, t.target? p = some (d, name) ∧
      t.isDirectoryAt (d ++ [name]) = false ∧ u = t.put (d ++ [name]) (.file content) := by
  simp only [write, bind_eq_ok_iff, target?_eq_some_iff_reached]
  constructor
  · rintro ⟨⟨d, name?⟩, reached, written⟩
    split at written
    · cases written
    · next same =>
      cases same
      split at written
      · cases written
      · next ends =>
        obtain ⟨_, placed, written⟩ := bind_eq_ok_iff.mp written
        obtain ⟨short, rfl⟩ := (place?_eq_ok_iff _ _ _).mp placed
        split at written
        · cases written
        · next file =>
          cases written
          exact ⟨_, _, ⟨reached, by simpa using ends, short⟩, by simpa using file, rfl⟩
  · rintro ⟨d, name, ⟨reached, ends, short⟩, file, rfl⟩
    refine ⟨_, reached, (if_neg (by simp [ends])).trans ?_⟩
    exact bind_eq_ok_iff.mpr ⟨_, (place?_eq_ok_iff _ _ _).mpr ⟨short, rfl⟩, if_neg (by simp [file])⟩

theorem rename_eq_ok_iff (t : Tree) (p q : FilePath) (u : Tree) :
    t.rename p q = .ok u ↔ ∃ d name d' name' node, t.target? p = some (d, name) ∧
      t.target? q = some (d', name') ∧ t.find? (d ++ [name]) = some node ∧
      t.isDirectoryAt (d' ++ [name']) = false ∧
      u = (t.remove (d ++ [name])).put (d' ++ [name']) node := by
  simp only [rename, bind_eq_ok_iff, target?_eq_some_iff_reached]
  constructor
  · rintro ⟨⟨d, name?⟩, reached, ⟨d', name'?⟩, reached', moved⟩
    split at moved
    · next same same' =>
      cases same
      cases same'
      obtain ⟨_, placed, moved⟩ := bind_eq_ok_iff.mp moved
      obtain ⟨short, rfl⟩ := (place?_eq_ok_iff _ _ _).mp placed
      obtain ⟨node, found, moved⟩ := bind_eq_ok_iff.mp moved
      obtain ⟨_, placed', moved⟩ := bind_eq_ok_iff.mp moved
      obtain ⟨short', rfl⟩ := (place?_eq_ok_iff _ _ _).mp placed'
      split at moved
      · cases moved
      · next ends =>
        simp only [Bool.or_eq_true, not_or, Bool.not_eq_true] at ends
        split at moved
        · cases moved
        · next file =>
          cases moved
          refine ⟨_, _, _, _, node, ⟨reached, ends.1, short⟩, ⟨reached', ends.2, short'⟩, ?_,
            by simpa using file, rfl⟩
          cases there : t.find? (d ++ [_]) with
          | none =>
              rw [there] at found
              cases found
          | some node' =>
              rw [there] at found
              cases found
              rfl
    · cases moved
  · rintro ⟨d, name, d', name', node, ⟨reached, ends, short⟩, ⟨reached', ends', short'⟩, found, file,
      rfl⟩
    refine ⟨_, reached, _, reached', ?_⟩
    refine bind_eq_ok_iff.mpr ⟨_, (place?_eq_ok_iff _ _ _).mpr ⟨short, rfl⟩, ?_⟩
    refine bind_eq_ok_iff.mpr ⟨node, by rw [found]; rfl, ?_⟩
    refine bind_eq_ok_iff.mpr ⟨_, (place?_eq_ok_iff _ _ _).mpr ⟨short', rfl⟩, ?_⟩
    rw [if_neg (by simp [ends, ends']), if_neg (by simp [file])]

/-- A path leads to a file at its target, or it goes upwards at its end. -/
theorem target?_of_reach {t : Tree} {p : FilePath} {place : Place} {content : Bytes}
    (reached : t.reach p = .ok (place, .file content)) :
    (∃ d name, t.target? p = some (d, name) ∧ place = d ++ [name]) ∨
      ∃ above, p.backwards = ['.', '.'] :: above := by
  simp only [reach, bind_eq_ok_iff] at reached
  obtain ⟨⟨⟩, checked, place', followed, reached⟩ := reached
  split at reached
  · cases reached
  · next content' file =>
    split at reached
    · cases reached
    · next ends =>
      cases reached
      obtain ⟨last, above, backwards⟩ := exists_backwards p
      have filled : last ≠ [] := by
        rintro rfl
        exact ends (endsOpen_of_backwards backwards (text_ne_of_checked checked))
      have steps : stepsOf p = (above.reverse.filter fun s => s != []) ++ [last] := by
        rw [stepsOf, split_of_backwards backwards, List.filter_append]
        simp [filled]
      rw [steps, follow_append] at followed
      obtain ⟨d, before, stepped⟩ := bind_eq_ok_iff.mp followed
      obtain ⟨next, stepped, stays⟩ := bind_eq_ok_iff.mp stepped
      cases stays
      obtain ⟨directory, kind⟩ := (step_eq_ok_iff t d last _).mp stepped
      rcases kind with ⟨rfl, rfl⟩ | ⟨rfl, -⟩ | ⟨notDot, notDots, rfl, short, -⟩
      · rw [isDirectoryAt_iff, file] at directory
        cases directory
      · exact .inr ⟨above, backwards⟩
      · exact .inl ⟨d, last, (target?_eq_some_iff t p d last).mpr
          ⟨above, ⟨backwards, filled, notDot, notDots⟩, checked, short, before, directory⟩, rfl⟩
  · cases reached

/-! ## Directories -/

theorem reach_directory_iff (t : Tree) (p : FilePath) (place : Place) :
    t.reach p = .ok (place, .directory) ↔ checkPath p = .ok () ∧
      t.follow (t.start p) (stepsOf p) = .ok place ∧ t.isDirectoryAt place = true := by
  simp only [reach, bind_eq_ok_iff, isDirectoryAt_iff]
  constructor
  · rintro ⟨⟨⟩, checked, place', followed, reached⟩
    split at reached
    · cases reached
    · split at reached <;> cases reached
    · next directory =>
      cases reached
      exact ⟨checked, followed, directory⟩
  · rintro ⟨checked, followed, directory⟩
    exact ⟨(), checked, place, followed, by rw [directory]⟩

theorem isDirectory_iff (t : Tree) (p : FilePath) :
    t.isDirectory p = true ↔ ∃ place, t.reach p = .ok (place, .directory) := by
  unfold isDirectory
  split
  · next place node reached => cases node <;> simp [reached]
  · next fault refused => simp [refused]

theorem isDirectory_of_same {t u : Tree} (same : t.SameDirectories u) {p : FilePath}
    (directory : t.isDirectory p = true) : u.isDirectory p = true := by
  obtain ⟨place, reached⟩ := (isDirectory_iff t p).mp directory
  obtain ⟨checked, followed, there⟩ := (reach_directory_iff t p place).mp reached
  refine (isDirectory_iff u p).mpr ⟨place, (reach_directory_iff u p place).mpr ⟨checked, ?_, ?_⟩⟩
  · rw [start_of_same same]
    exact follow_of_same same there _ _ followed
  · rw [same.directory, there]

/-- What is a directory already is not made. -/
theorem makeDirectory_of_isDirectory {t : Tree} {p : FilePath} (directory : t.isDirectory p = true) :
    t.makeDirectory p = .error .alreadyThere := by
  obtain ⟨place, reached⟩ := (isDirectory_iff t p).mp directory
  obtain ⟨checked, followed, there⟩ := (reach_directory_iff t p place).mp reached
  have named : ∀ d name?, t.reachParent p = .ok (d, name?) →
      (∀ name, name? = some name → (String.ofList name).utf8ByteSize ≤ longestName ∧
        t.isDirectoryAt (d ++ [name]) = true) → t.makeDirectory p = .error .alreadyThere := by
    intro d name? reached taken
    rw [makeDirectory, reached]
    cases name? with
    | none => rfl
    | some name =>
        obtain ⟨short, inner⟩ := taken name rfl
        have placed := (place?_eq_ok_iff d name _).mpr ⟨short, rfl⟩
        have found := (isDirectoryAt_iff t _).mp inner
        simp [bind, Except.bind, placed, found]
  cases steps : (stepsOf p).getLast? with
  | none =>
      have empty := List.getLast?_eq_none_iff.mp steps
      rw [empty] at followed
      cases followed
      refine named _ none ((reachParent_eq_ok_iff t p _ _).mpr ⟨checked, ?_, there, ?_⟩) nofun
      · rw [empty]
        rfl
      · rw [steps]
        rfl
  | some s =>
      obtain ⟨before, split⟩ := List.getLast?_eq_some_iff.mp steps
      rw [split, follow_append] at followed
      obtain ⟨d, outer, stepped⟩ := bind_eq_ok_iff.mp followed
      obtain ⟨next, stepped, stays⟩ := bind_eq_ok_iff.mp stepped
      cases stays
      obtain ⟨isDirectory, kind⟩ := (step_eq_ok_iff t d s _).mp stepped
      refine named d _ ((reachParent_eq_ok_iff t p _ _).mpr ⟨checked, ?_, isDirectory, rfl⟩) ?_
      · rw [split, List.dropLast_concat]
        exact outer
      · intro name same
        rw [steps] at same
        obtain ⟨same, proper⟩ := Option.filter_eq_some_iff.mp same
        cases same
        simp only [bne_iff_ne, ne_eq, Bool.and_eq_true] at proper
        rcases kind with ⟨dot, -⟩ | ⟨dots, -⟩ | ⟨-, -, rfl, short, -⟩
        · exact absurd dot proper.1
        · exact absurd dots proper.2
        · exact ⟨short, there⟩

/-! ## Trees that differ in one file -/

theorem same_put {t : Tree} {place : Place} (file : t.isDirectoryAt place = false) (content : Bytes) :
    t.SameDirectories (t.put place (.file content)) := by
  refine ⟨rfl, fun other => ?_⟩
  by_cases root : other = []
  · subst root
    rfl
  · unfold isDirectoryAt at file ⊢
    rw [find?_put t place other _ root]
    split
    · next same => rw [same, file]; rfl
    · rfl

theorem same_remove {t : Tree} {place : Place} (file : t.isDirectoryAt place = false) :
    t.SameDirectories (t.remove place) := by
  refine ⟨rfl, fun other => ?_⟩
  by_cases root : other = []
  · subst root
    rfl
  · unfold isDirectoryAt at file ⊢
    rw [find?_remove t place other root]
    split
    · next same => rw [same, file]; rfl
    · rfl

end Tree
end HeatStack.Files
