import HeatStack.Proofs.DiskSteps

/-! # Saves that fail

What comes before the first step of a save makes directories and changes no file (`Growing.makeParent`).
A save that fails later on has written the temporary file at most, which is not its target
(`saveRecord_error`). -/
set_option autoImplicit false
namespace HeatStack.Files
open Disk Steps

namespace Tree

theorem change_of_ok (f : Tree → Except Fault Tree) {t u : Tree} (done : f t = .ok u) :
    change f t = (.ok (), u) := by
  rw [change, done]

theorem change_of_not_ok (f : Tree → Except Fault Tree) {t : Tree} (refused : ∀ u, f t ≠ .ok u) :
    ∃ fault, change f t = (.error fault, t) := by
  unfold change
  cases done : f t with
  | ok u => exact absurd done (refused u)
  | error fault => exact ⟨fault, rfl⟩

theorem change_cases (f : Tree → Except Fault Tree) (t : Tree) :
    (∃ u, f t = .ok u ∧ change f t = (.ok (), u)) ∨ ∃ fault, change f t = (.error fault, t) := by
  by_cases done : ∃ u, f t = .ok u
  · obtain ⟨u, done⟩ := done
    exact .inl ⟨u, done, change_of_ok f done⟩
  · exact .inr (change_of_not_ok f fun u same => done ⟨u, same⟩)

theorem write_of_ok {p : FilePath} {content : Bytes} {t u : Tree} (done : t.write p content = .ok u) :
    disk.write p content t = (.ok (), u) :=
  change_of_ok (fun t => t.write p content) done

theorem write_of_not_ok {p : FilePath} {content : Bytes} {t : Tree}
    (refused : ∀ u, t.write p content ≠ .ok u) : ∃ fault, disk.write p content t = (.error fault, t) :=
  change_of_not_ok (fun t => t.write p content) refused

theorem write_cases (p : FilePath) (content : Bytes) (t : Tree) :
    (∃ u, t.write p content = .ok u ∧ disk.write p content t = (.ok (), u)) ∨
      ∃ fault, disk.write p content t = (.error fault, t) :=
  change_cases (fun t => t.write p content) t

theorem rename_of_ok {source target : FilePath} {t u : Tree} (done : t.rename source target = .ok u) :
    disk.rename source target t = (.ok (), u) :=
  change_of_ok (fun t => t.rename source target) done

theorem rename_of_not_ok {source target : FilePath} {t : Tree}
    (refused : ∀ u, t.rename source target ≠ .ok u) :
    ∃ fault, disk.rename source target t = (.error fault, t) :=
  change_of_not_ok (fun t => t.rename source target) refused

theorem rename_cases (source target : FilePath) (t : Tree) :
    (∃ u, t.rename source target = .ok u ∧ disk.rename source target t = (.ok (), u)) ∨
      ∃ fault, disk.rename source target t = (.error fault, t) :=
  change_cases (fun t => t.rename source target) t

end Tree

/-! ## Directories that are made -/

/-- The second tree has all that the first one has, and directories besides. -/
structure Tree.Grows (t u : Tree) : Prop where
  workingDirectory : u.workingDirectory = t.workingDirectory
  keeps : ∀ place node, t.find? place = some node → u.find? place = some node
  files : ∀ place content, u.find? place = some (.file content) →
    t.find? place = some (.file content)

namespace Tree.Grows
variable {t u v : Tree} {p : FilePath}

theorem refl (t : Tree) : t.Grows t := ⟨rfl, fun _ _ found => found, fun _ _ found => found⟩

theorem trans (first : t.Grows u) (second : u.Grows v) : t.Grows v :=
  ⟨second.workingDirectory.trans first.workingDirectory,
    fun place node found => second.keeps place node (first.keeps place node found),
    fun place content found => first.files place content (second.files place content found)⟩

theorem put {place : Place} (vacant : t.find? place = none) : t.Grows (t.put place .directory) := by
  have named : place ≠ [] := by
    rintro rfl
    cases vacant
  have put : ∀ other, (t.put place .directory).find? other =
      if other = place then some .directory else t.find? other := by
    intro other
    by_cases root : other = []
    · rw [root, if_neg named.symm]; rfl
    · exact find?_put t place other _ root
  refine ⟨rfl, fun other node found => ?_, fun other content found => ?_⟩
  · rw [put, if_neg, found]
    rintro rfl
    cases vacant.symm.trans found
  · rw [put] at found
    split at found
    · cases found
    · exact found

theorem makeDirectory (made : t.makeDirectory p = .ok u) : t.Grows u := by
  obtain ⟨⟨d, name?⟩, -, made⟩ := bind_eq_ok_iff.mp made
  cases name? with
  | none => cases made
  | some name =>
      obtain ⟨place, -, made⟩ := bind_eq_ok_iff.mp made
      split at made
      · cases made
      · next vacant =>
        cases made
        exact put (Option.not_isSome_iff_eq_none.mp vacant)

theorem isDirectoryAt (grows : t.Grows u) {place : Place} (directory : t.isDirectoryAt place = true) :
    u.isDirectoryAt place = true :=
  (isDirectoryAt_iff u place).mpr (grows.keeps _ _ ((isDirectoryAt_iff t place).mp directory))

theorem follow (grows : t.Grows u) {steps : List FilePath.Step} {here place : Place}
    (followed : t.follow here steps = .ok place) : u.follow here steps = .ok place := by
  induction steps generalizing here with
  | nil => exact followed
  | cons s steps ih =>
      obtain ⟨next, stepped, followed⟩ := bind_eq_ok_iff.mp followed
      refine bind_eq_ok_iff.mpr ⟨next, ?_, ih followed⟩
      obtain ⟨directory, kind⟩ := (step_eq_ok_iff t here s next).mp stepped
      refine (step_eq_ok_iff u here s next).mpr ⟨grows.isDirectoryAt directory, ?_⟩
      rcases kind with dot | dots | ⟨notDot, notDots, placed, short, there⟩
      · exact .inl dot
      · exact .inr (.inl dots)
      · obtain ⟨node, found⟩ := Option.isSome_iff_exists.mp there
        refine .inr (.inr ⟨notDot, notDots, placed, short, ?_⟩)
        rw [grows.keeps _ _ found]
        rfl

theorem start (grows : t.Grows u) (p : FilePath) : u.start p = t.start p := by
  rw [Tree.start, Tree.start, grows.workingDirectory]

theorem reach (grows : t.Grows u) {there : Place × Node} (reached : t.reach p = .ok there) :
    u.reach p = .ok there := by
  obtain ⟨⟨⟩, checked, reached⟩ := bind_eq_ok_iff.mp reached
  obtain ⟨place, followed, reached⟩ := bind_eq_ok_iff.mp reached
  refine bind_eq_ok_iff.mpr ⟨(), checked, bind_eq_ok_iff.mpr ⟨place, ?_, ?_⟩⟩
  · rw [grows.start]
    exact grows.follow followed
  · cases found : t.find? place with
    | none =>
        rw [found] at reached
        cases reached
    | some node =>
        rw [found] at reached
        rw [grows.keeps place node found]
        exact reached

end Tree.Grows

/-- A program that makes directories and nothing else. -/
def Growing {α : Type} (x : StateM Tree α) : Prop := ∀ t : Tree, t.Grows (x t).2

namespace Growing
variable {α β : Type}

theorem pure (a : α) : Growing (Pure.pure a) := Tree.Grows.refl

theorem bind {x : StateM Tree α} {f : α → StateM Tree β} (first : Growing x)
    (second : ∀ a, Growing (f a)) : Growing (x >>= f) :=
  fun t => (first t).trans (second (x t).1 (x t).2)

theorem makeDirectory (p : FilePath) : Growing (Tree.disk.makeDirectory p) := by
  intro t
  change t.Grows (Tree.change (fun t => t.makeDirectory p) t).2
  rcases Tree.change_cases (fun t => t.makeDirectory p) t with ⟨u, made, changed⟩ | ⟨fault, refused⟩
  · rw [changed]
    exact .makeDirectory made
  · rw [refused]
    exact .refl t

theorem unlessDirectory (p : FilePath) (result : Except Fault Unit) :
    Growing (Disk.makeLineage.unlessDirectory Tree.disk p result) := by
  cases result with
  | ok _ => exact .pure _
  | error fault => exact .bind Tree.Grows.refl fun _ => .pure _

theorem makeLineage (line : List FilePath) : Growing (Tree.disk.makeLineage line) := by
  induction line with
  | nil => exact .pure _
  | cons p above ih =>
      refine .bind (makeDirectory p) fun made => ?_
      split
      · exact .pure _
      · refine .bind ih fun below => ?_
        cases below with
        | error fault => exact .pure _
        | ok _ => exact .bind (makeDirectory p) (unlessDirectory p)
      · exact unlessDirectory p _

theorem makeParent (p : FilePath) : Growing (Tree.disk.makeParent p) := by
  unfold Disk.makeParent
  split
  · exact .pure _
  · next above parent => exact .bind (makeLineage above.lineage) fun _ => .pure _

end Growing

/-! ## What a failure leaves -/

/-- The path leads to the file that it led to. -/
structure Spared (t u : Tree) (p : FilePath) : Prop where
  keeps : ∀ place content, t.reach p = .ok (place, .file content) →
    u.reach p = .ok (place, .file content)
  files : ∀ place content, u.reach p = .ok (place, .file content) →
    t.find? place = some (.file content)

theorem Tree.Grows.spared {t u : Tree} (grows : t.Grows u) (p : FilePath) : Spared t u p := by
  refine ⟨fun place content reached => grows.reach reached, fun place content reached => ?_⟩
  obtain ⟨⟨⟩, -, reached⟩ := bind_eq_ok_iff.mp reached
  obtain ⟨place', -, reached⟩ := bind_eq_ok_iff.mp reached
  split at reached
  · cases reached
  · next there =>
    split at reached <;> cases reached
    exact grows.files _ _ there
  · cases reached

/-- A file that is written beside the target. -/
theorem Spared.written {t u : Tree} {p : FilePath} {d : Place} {name : FilePath.Step}
    (spared : Spared t u p) (beside : u.target? (temporary p) = some (d, name))
    (file : u.isDirectoryAt (d ++ [name]) = false) (content : Bytes) :
    Spared t (u.put (d ++ [name]) (.file content)) p := by
  let v := u.put (d ++ [name]) (.file content)
  have same : u.SameDirectories v := Tree.same_put file content
  have named : ∀ {above}, p.backwards ≠ ['.', '.'] :: above := by
    intro above upwards
    rw [temporary_of_upwards upwards] at beside
    obtain ⟨above', targets⟩ := (Tree.target?_eq_some_iff u p d name).mp beside
    have last := upwards.symm.trans targets.names.backwards
    exact targets.names.proper.2.2 (List.cons.inj last).1.symm
  have again : ∀ {a : Place × FilePath.Step}, u.target? p = some a → v.reach p = u.reach p := by
    rintro ⟨d', name'⟩ found
    obtain ⟨rfl, rfl⟩ := Tree.target?_temporary found beside
    have other : d ++ [name'] ≠ d ++ [temporaryName name'] := by
      intro same
      exact temporaryName_ne name' (List.singleton_inj.mp (List.append_cancel_left same)).symm
    rw [Tree.reach_of_target found, Tree.reach_of_target ((Tree.target?_of_same same p).trans found),
      Tree.find?_put u _ _ _ (by simp), if_neg other]
  refine ⟨fun place content reached => ?_, fun place content reached => ?_⟩
  · have reached := spared.keeps place content reached
    rcases Tree.target?_of_reach reached with ⟨d', name', found, -⟩ | ⟨above, upwards⟩
    · exact (again found).trans reached
    · exact absurd upwards named
  · rcases Tree.target?_of_reach reached with ⟨d', name', found, -⟩ | ⟨above, upwards⟩
    · have found := (Tree.target?_of_same same p).symm.trans found
      exact spared.files place content ((again found).symm.trans reached)
    · exact absurd upwards named

theorem saveRecord_run (p : FilePath) (text : String) (t : Tree) :
    Tree.disk.saveRecord p text t =
      (match (Tree.disk.makeParent p t).1 with
        | .ok () => writing p text
        | .error refusal => .done (.error (refused refusal))).run (Tree.disk.makeParent p t).2 := by
  rw [← run_saveRecord, saveRecord_eq]
  refine (congrFun (run_bind (Tree.steps.makeParent p) _) t).trans ?_
  rw [run_makeParent]
  rfl

theorem run_writing_of_ok {p : FilePath} {text : String} {t u : Tree}
    (written : Tree.disk.write (temporary p) text.toUTF8.toList t = (.ok (), u)) :
    (writing p text).run t = (moving p).run u := by
  simp only [run, writing, written]

theorem run_writing_of_error {p : FilePath} {text : String} {t u : Tree} {fault : Fault}
    (written : Tree.disk.write (temporary p) text.toUTF8.toList t = (.error fault, u)) :
    (writing p text).run t = (.error (refused (temporary p, fault)), u) := by
  simp only [run, writing, written]
  rfl

theorem run_moving {p : FilePath} {t u : Tree} {result : Except Fault Unit}
    (moved : Tree.disk.rename (temporary p) p t = (result, u)) :
    (moving p).run t = ((result.mapError fun fault => (p, fault)).mapError refused, u) := by
  simp only [run, moving, moved]
  rfl

/-- A save that fails leaves the file at its path, or that there is none, as it was. -/
theorem saveRecord_error {t : Tree} {p : FilePath} {text : String} {e : RecordError}
    (failed : (Tree.disk.saveRecord p text t).1 = .error e) :
    Spared t (Tree.disk.saveRecord p text t).2 p := by
  have spared := (Growing.makeParent p t).spared p
  rw [saveRecord_run] at failed ⊢
  generalize Tree.disk.makeParent p t = made at failed spared ⊢
  obtain ⟨made, u⟩ := made
  cases made with
  | error refusal => exact spared
  | ok _ =>
      rcases Tree.write_cases (temporary p) text.toUTF8.toList u with
        ⟨v, written, changed⟩ | ⟨fault, unwritten⟩
      · obtain ⟨d, name, beside, file, rfl⟩ := (Tree.write_eq_ok_iff u _ _ v).mp written
        have spared := spared.written beside file text.toUTF8.toList
        change ((writing p text).run u).1 = _ at failed
        change Spared t ((writing p text).run u).2 p
        rw [run_writing_of_ok changed] at failed ⊢
        rcases Tree.rename_cases (temporary p) p (u.put (d ++ [name]) (.file text.toUTF8.toList)) with
          ⟨w, -, moved⟩ | ⟨fault, unmoved⟩
        · rw [run_moving moved] at failed
          cases failed
        · rw [run_moving unmoved]
          exact spared
      · change Spared t ((writing p text).run u).2 p
        rw [run_writing_of_error unwritten]
        exact spared

end HeatStack.Files
