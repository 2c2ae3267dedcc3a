import HeatStack.Proofs.Base64Codec
import HeatStack.Proofs.FailedSaves

/-! # Saves at the same time

Saves that work on one tree in turns do not disturb one another just where no two of them share a
temporary file and none has for its target what is the temporary file of another
(`concurrent_saves_iff`).  The name of the temporary file is that of the target with another ending, so
two targets in one directory that differ in the ending alone do share it. -/
set_option autoImplicit false
namespace HeatStack.Files
open Disk Steps

/-- A directory and a name in it. -/
abbrev Target := Place × FilePath.Step

namespace Target

def place (a : Target) : Place := a.1 ++ [a.2]

def temporary (a : Target) : Target := (a.1, temporaryName a.2)

/-- Two targets of which one temporary file is the other one, or the other target. -/
def Collide (a b : Target) : Prop :=
  a.1 = b.1 ∧ (FilePath.stemOf a.2 = FilePath.stemOf b.2 ∨ a.2 = temporaryName b.2 ∨
    b.2 = temporaryName a.2)

instance (a b : Target) : Decidable (Collide a b) := inferInstanceAs (Decidable (_ ∧ _))

theorem place_injective {a b : Target} : a.place = b.place ↔ a = b := by
  constructor
  · intro same
    obtain ⟨directory, name⟩ := List.append_inj' same rfl
    exact Prod.ext directory (List.singleton_inj.mp name)
  · rintro rfl
    rfl

theorem place_ne_root (a : Target) : a.place ≠ [] := by
  simp [place]

theorem temporary_ne (a : Target) : a.temporary.place ≠ a.place :=
  fun same => temporaryName_ne a.2 (congrArg Prod.snd (place_injective.mp same))

theorem collide_iff (a b : Target) :
    Collide a b ↔ a.temporary = b.temporary ∨ a = b.temporary ∨ b = a.temporary := by
  simp only [Collide, temporary, Prod.ext_iff, temporaryName_injective_stem, and_or_left]
  tauto

/-- Places that are not the same, as far as two saves have to do with them. -/
theorem apart_of_not_collide {a b : Target} (apart : ¬ Collide a b) :
    (a.place ≠ b.place ∧ a.place ≠ b.temporary.place) ∧
      (a.temporary.place ≠ b.place ∧ a.temporary.place ≠ b.temporary.place) := by
  rw [collide_iff, not_or, not_or] at apart
  simp only [ne_eq, place_injective]
  exact ⟨⟨fun same => apart.1 (congrArg temporary same), apart.2.1⟩,
    fun same => apart.2.2 same.symm, apart.1⟩

end Target

/-! ## Reading back -/

theorem decode_toUTF8 (text : String) : decode text.toUTF8.toList = .ok text := by
  have bytes : (⟨text.toUTF8.toList.toArray⟩ : ByteArray) = text.toByteArray := by
    rw [Text.toList_eq]
    rfl
  unfold decode String.fromUTF8?
  rw [bytes, dif_pos text.isValidUTF8]
  rfl

theorem loadRecord_eq {α : Type} (t : Tree) (p : FilePath) (ofText? : String → Option α) :
    (Tree.disk.loadRecord ofText? p t).1 = if t.holds p = true then
      (recordOf ofText? p ((t.read p).bind decode)).map some else .ok none := by
  change ((if t.holds p = true then
    (do return (recordOf ofText? p (← Tree.disk.readText p)).map some : StateM Tree _)
    else pure (.ok none)) t).1 = _
  split <;> rfl

theorem loadRecord_of_read {α : Type} {t : Tree} {p : FilePath} {text : String} {a : α}
    {ofText? : String → Option α} (found : t.read p = .ok text.toUTF8.toList)
    (readable : ofText? text = some a) :
    (Tree.disk.loadRecord ofText? p t).1 = .ok (some a) := by
  have holds : t.holds p = true := by
    rw [Tree.holds]
    cases reached : t.reach p with
    | error fault =>
        rw [Tree.read, reached] at found
        cases found
    | ok there => rfl
  rw [loadRecord_eq, if_pos holds, found, Except.bind, decode_toUTF8, recordOf, readable]
  rfl

/-! ## The two changes of a save -/

namespace Tree

/-- The temporary file can be written. -/
structure Beside (t : Tree) (p : FilePath) (a : Target) : Prop where
  target : t.target? (Disk.temporary p) = some a.temporary
  file : t.isDirectoryAt a.temporary.place = false

/-- The temporary file can be written and moved to the target. -/
structure Clear (t : Tree) (p : FilePath) (a : Target) : Prop extends t.Beside p a where
  replaceable : t.isDirectoryAt a.place = false

variable {t u : Tree} {p : FilePath} {a : Target}

theorem write_beside (content : Bytes) (same : t.SameDirectories u) (beside : t.Beside p a) :
    Tree.disk.write (Disk.temporary p) content u =
      (.ok (), u.put a.temporary.place (.file content)) := by
  refine write_of_ok ((write_eq_ok_iff u _ content _).mpr ⟨_, _, ?_, ?_, rfl⟩)
  · exact (target?_of_same same _).trans beside.target
  · exact (same.directory _).trans beside.file

theorem write_not_beside (content : Bytes) (same : t.SameDirectories u) (found : t.target? p = some a)
    (unfit : ¬ t.Beside p a) :
    ∃ fault, Tree.disk.write (Disk.temporary p) content u = (.error fault, u) := by
  refine write_of_not_ok fun v written => unfit ?_
  obtain ⟨d, name, target, file, -⟩ := (write_eq_ok_iff u _ content v).mp written
  rw [target?_of_same same] at target
  obtain ⟨rfl, rfl⟩ := target?_temporary found target
  exact ⟨target, (same.directory _).symm.trans file⟩

variable {content : Bytes}

theorem rename_clear (same : t.SameDirectories u) (found : t.target? p = some a)
    (clear : t.Clear p a) (new : u.find? a.temporary.place = some (.file content)) :
    Tree.disk.rename (Disk.temporary p) p u =
      (.ok (), (u.remove a.temporary.place).put a.place (.file content)) := by
  refine rename_of_ok
    ((rename_eq_ok_iff u _ p _).mpr ⟨_, _, _, _, _, ?_, ?_, new, ?_, rfl⟩)
  · exact (target?_of_same same _).trans clear.target
  · exact (target?_of_same same _).trans found
  · exact (same.directory _).trans clear.replaceable

theorem rename_not_clear (same : t.SameDirectories u) (found : t.target? p = some a)
    (beside : t.Beside p a)
    (unfit : u.find? a.temporary.place = none ∨ ¬ t.Clear p a) :
    ∃ fault, Tree.disk.rename (Disk.temporary p) p u = (.error fault, u) := by
  refine rename_of_not_ok fun v moved => ?_
  obtain ⟨d, name, d', name', node, source, target, there, file, -⟩ :=
    (rename_eq_ok_iff u _ p v).mp moved
  rw [target?_of_same same] at source target
  cases beside.target.symm.trans source
  cases found.symm.trans target
  rcases unfit with gone | unclear
  · cases gone.symm.trans there
  · exact unclear ⟨beside, (same.directory _).symm.trans file⟩

theorem same_written (same : t.SameDirectories u) (beside : t.Beside p a) :
    t.SameDirectories (u.put a.temporary.place (.file content)) :=
  same.trans (same_put ((same.directory _).trans beside.file) content)

theorem same_moved (same : t.SameDirectories u) (clear : t.Clear p a) :
    t.SameDirectories ((u.remove a.temporary.place).put a.place (.file content)) := by
  have removed := same.trans (same_remove ((same.directory _).trans clear.file))
  exact removed.trans (same_put ((removed.directory _).trans clear.replaceable) content)

theorem find?_moved (place : Place) (named : place ≠ []) :
    ((u.remove a.temporary.place).put a.place (.file content)).find? place =
      if place = a.place then some (.file content)
      else if place = a.temporary.place then none else u.find? place := by
  rw [find?_put _ _ _ _ named, find?_remove _ _ _ named]

end Tree

/-! ## How far a save has come -/

/-- A save begun in the tree `t`, in the tree `u` that the saves have made of it. -/
inductive Phase (t u : Tree) (p : FilePath) (text : String) (a : Target) :
    Steps (Except RecordError Unit) → Prop
  | waiting {x : Steps (Except RecordError Unit)} (comes : Approaches t (writing p text) x)
      (keeps : u.find? a.place = t.find? a.place) : Phase t u p text a x
  | written (beside : t.Beside p a) (keeps : u.find? a.place = t.find? a.place)
      (new : u.find? a.temporary.place = some (.file text.toUTF8.toList)) :
      Phase t u p text a (moving p)
  | saved (clear : t.Clear p a) (new : u.find? a.place = some (.file text.toUTF8.toList)) :
      Phase t u p text a (.done (.ok ()))
  | failed (e : RecordError) (unclear : ¬ t.Clear p a) (keeps : u.find? a.place = t.find? a.place) :
      Phase t u p text a (.done (.error e))

namespace Phase
variable {t u v : Tree} {p : FilePath} {text : String} {a : Target}
  {x : Steps (Except RecordError Unit)}

/-- What happens elsewhere does not matter to a save. -/
theorem elsewhere (phase : Phase t u p text a x) (target : v.find? a.place = u.find? a.place)
    (temporary : v.find? a.temporary.place = u.find? a.temporary.place) : Phase t v p text a x := by
  cases phase with
  | waiting comes keeps => exact .waiting comes (target.trans keeps)
  | written beside keeps new => exact .written beside (target.trans keeps) (temporary.trans new)
  | saved clear new => exact .saved clear (target.trans new)
  | failed e unclear keeps => exact .failed e unclear (target.trans keeps)

/-- What one step does: the directories stay, the save goes on, and other files stay as they are. -/
structure Step (t u : Tree) (p : FilePath) (text : String) (a : Target) (v : Tree)
    (x : Steps (Except RecordError Unit)) : Prop where
  same : t.SameDirectories v
  phase : Phase t v p text a x
  frame : ∀ place, place ≠ a.place → place ≠ a.temporary.place → v.find? place = u.find? place

theorem step_writing (same : t.SameDirectories u) (found : t.target? p = some a)
    (keeps : u.find? a.place = t.find? a.place) {effect : Tree → Tree}
    {next : Tree → Steps (Except RecordError Unit)} (pending : writing p text = .step effect next) :
    Step t u p text a (effect u) (next u) := by
  cases pending
  by_cases beside : t.Beside p a
  · have written := Tree.write_beside text.toUTF8.toList same beside
    simp only [written]
    refine ⟨Tree.same_written same beside, .written beside ?_ ?_, fun place _ other => ?_⟩
    · rw [Tree.find?_put _ _ _ _ a.place_ne_root, if_neg a.temporary_ne.symm, keeps]
    · rw [Tree.find?_put _ _ _ _ a.temporary.place_ne_root, if_pos rfl]
    · by_cases root : place = []
      · rw [root]; rfl
      · rw [Tree.find?_put _ _ _ _ root, if_neg other]
  · obtain ⟨fault, written⟩ :=
      Tree.write_not_beside text.toUTF8.toList same found beside
    simp only [written]
    exact ⟨same, .failed _ (fun clear => beside clear.toBeside) keeps, fun _ _ _ => rfl⟩

theorem step_moving (same : t.SameDirectories u) (found : t.target? p = some a)
    (beside : t.Beside p a) (keeps : u.find? a.place = t.find? a.place)
    (new : u.find? a.temporary.place = some (.file text.toUTF8.toList)) {effect : Tree → Tree}
    {next : Tree → Steps (Except RecordError Unit)} (pending : moving p = .step effect next) :
    Step t u p text a (effect u) (next u) := by
  cases pending
  by_cases clear : t.Clear p a
  · have moved := Tree.rename_clear same found clear new
    simp only [moved]
    refine ⟨Tree.same_moved same clear, .saved clear ?_, fun place other other' => ?_⟩
    · rw [Tree.find?_moved _ a.place_ne_root, if_pos rfl]
    · by_cases root : place = []
      · rw [root]; rfl
      · rw [Tree.find?_moved _ root, if_neg other, if_neg other']
  · obtain ⟨fault, moved⟩ := Tree.rename_not_clear same found beside (.inr clear)
    simp only [moved]
    exact ⟨same, .failed _ clear keeps, fun _ _ _ => rfl⟩

theorem step {effect : Tree → Tree} {next : Tree → Steps (Except RecordError Unit)}
    (phase : Phase t u p text a (.step effect next)) (same : t.SameDirectories u)
    (found : t.target? p = some a) : Step t u p text a (effect u) (next u) := by
  generalize pending : Steps.step effect next = x at phase
  cases phase with
  | waiting comes keeps =>
      cases comes with
      | here => exact step_writing same found keeps pending.symm
      | step idle onward =>
          cases pending
          rw [idle u same]
          exact ⟨same, .waiting (onward u same) keeps, fun _ _ _ => rfl⟩
  | written beside keeps new => exact step_moving same found beside keeps new pending.symm
  | saved clear new => cases pending
  | failed e unclear keeps => cases pending

/-- A save that has the tree to itself. -/
theorem run (found : t.target? p = some a) (phase : Phase t u p text a x)
    (same : t.SameDirectories u) : Phase t (x.run u).2 p text a (.done (x.run u).1) := by
  induction x generalizing u with
  | done r => exact phase
  | step effect next ih =>
      have stepped := phase.step same found
      exact ih u stepped.phase stepped.same

theorem done_ok_iff {r : Except RecordError Unit} (phase : Phase t u p text a (.done r)) :
    r = .ok () ↔ t.Clear p a := by
  generalize ended : Steps.done r = x at phase
  cases phase with
  | waiting comes keeps =>
      cases comes with
      | here => cases ended
      | step idle onward => cases ended
  | written beside keeps new => cases ended
  | saved clear new =>
      cases ended
      exact iff_of_true rfl clear
  | failed e unclear keeps =>
      cases ended
      exact iff_of_false nofun unclear

end Phase

/-! ## Several saves in turns -/

structure Saves (ι : Type) where
  tree : Tree
  programs : ι → Steps (Except RecordError Unit)

/-- What a save may expect of the tree that it was begun in, whatever other saves there are: its target
holds what it held or all of the new record; the save fails only if it fails alone; and once it is over
the new record can be loaded. -/
structure Orderly (t : Tree) (p : FilePath) (text : String) (u : Tree)
    (x : Steps (Except RecordError Unit)) : Prop where
  content : u.read p = t.read p ∨
    (Tree.disk.saveRecord p text t).1 = .ok () ∧ u.read p = .ok text.toUTF8.toList
  outcome : ∀ r, x = .done r → (r = .ok () ↔ (Tree.disk.saveRecord p text t).1 = .ok ())
  loaded : x = .done (.ok ()) → ∀ (α : Type) (ofText? : String → Option α) (a : α),
    ofText? text = some a → (Tree.disk.loadRecord ofText? p u).1 = .ok (some a)

namespace Saves
variable {ι : Type} [DecidableEq ι]

def begun (t : Tree) (path : ι → FilePath) (text : ι → String) : Saves ι :=
  ⟨t, fun i => Tree.steps.saveRecord (path i) (text i)⟩

def moved (s : Saves ι) (i : ι) (u : Tree) (x : Steps (Except RecordError Unit)) : Saves ι :=
  ⟨u, Function.update s.programs i x⟩

/-- One of the saves takes its next step. -/
inductive Moves : Saves ι → Saves ι → Prop
  | turn (s : Saves ι) (i : ι) (effect : Tree → Tree)
      (next : Tree → Steps (Except RecordError Unit)) (pending : s.programs i = .step effect next) :
      Moves s (s.moved i (effect s.tree) (next s.tree))

abbrev Reaches : Saves ι → Saves ι → Prop := Relation.ReflTransGen Moves

theorem moved_self (s : Saves ι) (i : ι) : s.moved i s.tree (s.programs i) = s := by
  rw [moved, Function.update_eq_self]

theorem moved_moved (s : Saves ι) (i : ι) (u v : Tree) (x y : Steps (Except RecordError Unit)) :
    (s.moved i u x).moved i v y = s.moved i v y := by
  simp [moved]

theorem programs_moved (s : Saves ι) (i : ι) (u : Tree) (x : Steps (Except RecordError Unit)) :
    (s.moved i u x).programs i = x :=
  Function.update_self ..

theorem programs_moved_of_ne (s : Saves ι) {i j : ι} (other : j ≠ i) (u : Tree)
    (x : Steps (Except RecordError Unit)) : (s.moved i u x).programs j = s.programs j :=
  Function.update_of_ne other ..

variable {t : Tree} {path : ι → FilePath} {text : ι → String} {target : ι → Target}

structure Sound (t : Tree) (path : ι → FilePath) (text : ι → String) (target : ι → Target)
    (s : Saves ι) : Prop where
  same : t.SameDirectories s.tree
  phase : ∀ i, Phase t s.tree (path i) (text i) (target i) (s.programs i)

omit [DecidableEq ι] in
theorem sound_begun (text : ι → String) (target : ι → Target)
    (ready : ∀ i above, (path i).parent? = some above → t.isDirectory above = true) :
    Sound t path text target (begun t path text) :=
  ⟨.refl t, fun i => .waiting (approaches_saveRecord (ready i) (text i)) rfl⟩

theorem Sound.move {s s' : Saves ι} (sound : Sound t path text target s)
    (targets : ∀ i, t.target? (path i) = some (target i))
    (apart : ∀ i j, i ≠ j → ¬ (target i).Collide (target j)) (move : Moves s s') :
    Sound t path text target s' := by
  obtain ⟨i, effect, next, pending⟩ := move
  have phase := sound.phase i
  rw [pending] at phase
  have stepped := phase.step sound.same (targets i)
  refine ⟨stepped.same, fun j => ?_⟩
  by_cases this : j = i
  · subst this
    rw [programs_moved]
    exact stepped.phase
  · rw [programs_moved_of_ne _ this]
    obtain ⟨atTarget, atTemporary⟩ := Target.apart_of_not_collide (apart j i this)
    exact (sound.phase j).elsewhere (stepped.frame _ atTarget.1 atTarget.2)
      (stepped.frame _ atTemporary.1 atTemporary.2)

theorem Sound.reaches {s s' : Saves ι} (sound : Sound t path text target s)
    (targets : ∀ i, t.target? (path i) = some (target i))
    (apart : ∀ i j, i ≠ j → ¬ (target i).Collide (target j)) (reaches : Reaches s s') :
    Sound t path text target s' := by
  induction reaches with
  | refl => exact sound
  | tail _ move ih => exact ih.move targets apart move

end Saves

/-- A save alone is not refused if and only if nothing is in its way. -/
theorem saveRecord_ok_iff {t : Tree} {p : FilePath} {a : Target} (text : String)
    (ready : ∀ above, p.parent? = some above → t.isDirectory above = true)
    (found : t.target? p = some a) :
    (Tree.disk.saveRecord p text t).1 = .ok () ↔ t.Clear p a := by
  have begun : Phase t t p text a (Tree.steps.saveRecord p text) :=
    .waiting (approaches_saveRecord ready text) rfl
  have ended := begun.run found (.refl t)
  rw [run_saveRecord] at ended
  exact ended.done_ok_iff

theorem Phase.orderly {t u : Tree} {p : FilePath} {text : String} {a : Target}
    {x : Steps (Except RecordError Unit)} (phase : Phase t u p text a x)
    (same : t.SameDirectories u)
    (ready : ∀ above, p.parent? = some above → t.isDirectory above = true)
    (found : t.target? p = some a) : Orderly t p text u x := by
  have alone := saveRecord_ok_iff text ready found
  have before := Tree.read_of_target found
  have now := Tree.read_of_target ((Tree.target?_of_same same p).trans found)
  have kept : u.find? a.place = t.find? a.place → u.read p = t.read p := by
    intro keeps
    rw [Target.place] at keeps
    rw [now, before, keeps]
  have replaced : u.find? a.place = some (.file text.toUTF8.toList) →
      u.read p = .ok text.toUTF8.toList := by
    intro new
    rw [Target.place] at new
    rw [now, new]
  refine ⟨?_, fun r ended => ?_, fun ended α ofText? b readable => ?_⟩
  · cases phase with
    | waiting comes keeps => exact .inl (kept keeps)
    | written beside keeps new => exact .inl (kept keeps)
    | saved clear new => exact .inr ⟨alone.mpr clear, replaced new⟩
    | failed e unclear keeps => exact .inl (kept keeps)
  · subst ended
    exact phase.done_ok_iff.trans alone.symm
  · subst ended
    have new : u.find? a.place = some (.file text.toUTF8.toList) := by
      generalize ended : Steps.done (Except.ok ()) = x at phase
      cases phase with
      | waiting comes keeps => cases comes <;> cases ended
      | written beside keeps new => cases ended
      | saved clear new => exact new
      | failed e unclear keeps => cases ended
    exact loadRecord_of_read (replaced new) readable

/-! ## Saves in one another's way -/

namespace Saves
variable {ι : Type} [DecidableEq ι] {t : Tree} {s : Saves ι} {i : ι} {p : FilePath} {a : Target}
  {content : Bytes} {text : String}

theorem reaches_goal {goal x : Steps (Except RecordError Unit)} (comes : Approaches t goal x)
    (pending : s.programs i = x) (same : t.SameDirectories s.tree) :
    Reaches s (s.moved i s.tree goal) := by
  induction comes generalizing s with
  | here =>
      rw [← pending, moved_self]
  | @step effect next idle onward ih =>
      have first := Moves.turn s i effect next pending
      rw [idle _ same] at first
      have later := ih s.tree same (s := s.moved i s.tree (next s.tree)) (programs_moved ..) same
      rw [moved_moved] at later
      exact .head first later

/-- One save has come to `x` while the others rested. -/
structure Turned (t : Tree) (s : Saves ι) (i : ι) (x : Steps (Except RecordError Unit))
    (s' : Saves ι) : Prop where
  reaches : Reaches s s'
  same : t.SameDirectories s'.tree
  program : s'.programs i = x
  rest : ∀ j, j ≠ i → s'.programs j = s.programs j

theorem turned_moved {u : Tree} {x : Steps (Except RecordError Unit)}
    (reaches : Reaches s (s.moved i u x)) (same : t.SameDirectories u) :
    Turned t s i x (s.moved i u x) :=
  ⟨reaches, same, programs_moved .., fun _ other => programs_moved_of_ne _ other _ _⟩

/-- A save that has not begun writes its temporary file. -/
theorem exists_written (same : t.SameDirectories s.tree)
    (pending : s.programs i = Tree.steps.saveRecord p text)
    (ready : ∀ above, p.parent? = some above → t.isDirectory above = true) (beside : t.Beside p a) :
    ∃ s', Turned t s i (moving p) s' ∧
      s'.tree.find? a.temporary.place = some (.file text.toUTF8.toList) := by
  have come := reaches_goal (approaches_saveRecord ready text) pending same
  have turn := Moves.turn (s.moved i s.tree (writing p text)) i _ _ (programs_moved ..)
  have written := Tree.write_beside text.toUTF8.toList same beside
  have tree : (s.moved i s.tree (writing p text)).tree = s.tree := rfl
  simp only [moved_moved, tree, written] at turn
  refine ⟨_, turned_moved (come.tail turn) (Tree.same_written same beside), ?_⟩
  exact (Tree.find?_put _ _ _ _ (Target.place_ne_root _)).trans (if_pos rfl)

/-- A save that has written its temporary file moves it. -/
theorem exists_moved (same : t.SameDirectories s.tree) (pending : s.programs i = moving p)
    (found : t.target? p = some a) (clear : t.Clear p a)
    (new : s.tree.find? a.temporary.place = some (.file content)) :
    ∃ s', Turned t s i (.done (.ok ())) s' ∧ s'.tree.find? a.temporary.place = none := by
  have turn := Moves.turn s i _ _ pending
  simp only [Tree.rename_clear same found clear new] at turn
  refine ⟨_, turned_moved (.single turn) (Tree.same_moved same clear), ?_⟩
  refine (Tree.find?_moved _ (Target.place_ne_root _)).trans ?_
  rw [if_neg a.temporary_ne, if_pos rfl]

/-- A save whose temporary file is gone fails. -/
theorem exists_failed (same : t.SameDirectories s.tree) (pending : s.programs i = moving p)
    (found : t.target? p = some a) (beside : t.Beside p a)
    (gone : s.tree.find? a.temporary.place = none) :
    ∃ s' e, Turned t s i (.done (.error e)) s' := by
  obtain ⟨fault, refused⟩ := Tree.rename_not_clear same found beside (.inl gone)
  have turn := Moves.turn s i _ _ pending
  simp only [refused] at turn
  exact ⟨_, _, turned_moved (.single turn) same⟩

variable {path : ι → FilePath} {target : ι → Target} {j : ι}

/-- Both write before both move: the one file moves once. -/
theorem exists_failed_of_shared (text : ι → String) (other : i ≠ j)
    (ready : ∀ i above, (path i).parent? = some above → t.isDirectory above = true)
    (targets : ∀ i, t.target? (path i) = some (target i)) (first : t.Clear (path i) (target i))
    (second : t.Clear (path j) (target j)) (shared : (target i).temporary = (target j).temporary) :
    ∃ s e, Reaches (begun t path text) s ∧ s.programs j = .done (.error e) := by
  obtain ⟨s₁, write₁, -⟩ := exists_written (s := begun t path text) (.refl t) rfl (ready i)
    first.toBeside
  obtain ⟨s₂, write₂, new⟩ := exists_written write₁.same (write₁.rest j other.symm) (ready j)
    second.toBeside
  rw [← shared] at new
  have pending₁ := (write₂.rest i other).trans write₁.program
  obtain ⟨s₃, move₁, gone⟩ := exists_moved write₂.same pending₁ (targets i) first new
  rw [shared] at gone
  have pending₂ := (move₁.rest j other.symm).trans write₂.program
  obtain ⟨s₄, e, fail⟩ := exists_failed move₁.same pending₂ (targets j) second.toBeside gone
  exact ⟨s₄, e, write₁.reaches.trans (write₂.reaches.trans (move₁.reaches.trans fail.reaches)),
    fail.program⟩

/-- One save is over before the other writes to its target and moves that away. -/
theorem exists_lost_of_overwritten (text : ι → String) (other : i ≠ j)
    (ready : ∀ i above, (path i).parent? = some above → t.isDirectory above = true)
    (targets : ∀ i, t.target? (path i) = some (target i)) (first : t.Clear (path i) (target i))
    (second : t.Clear (path j) (target j)) (overwritten : target i = (target j).temporary) :
    ∃ s, Reaches (begun t path text) s ∧ s.programs i = .done (.ok ()) ∧
      s.programs j = .done (.ok ()) ∧ s.tree.reach (path i) = .error .missing := by
  obtain ⟨s₁, write₁, new₁⟩ := exists_written (s := begun t path text) (.refl t) rfl (ready i)
    first.toBeside
  obtain ⟨s₂, move₁, -⟩ := exists_moved write₁.same write₁.program (targets i) first new₁
  have pending := (move₁.rest j other.symm).trans (write₁.rest j other.symm)
  obtain ⟨s₃, write₂, new₂⟩ := exists_written move₁.same pending (ready j) second.toBeside
  obtain ⟨s₄, move₂, gone⟩ := exists_moved write₂.same write₂.program (targets j) second new₂
  refine ⟨s₄, write₁.reaches.trans (move₁.reaches.trans (write₂.reaches.trans move₂.reaches)),
    (move₂.rest i other).trans ((write₂.rest i other).trans move₁.program), move₂.program, ?_⟩
  rw [← overwritten, Target.place] at gone
  rw [Tree.reach_of_target ((Tree.target?_of_same move₂.same _).trans (targets i)), gone]

end Saves

theorem Orderly.reached {t u : Tree} {p : FilePath} {text : String}
    (orderly : Orderly t p text u (.done (.ok ()))) : u.reach p ≠ .error .missing := by
  intro missing
  have unheld : ¬ u.holds p = true := by
    rw [Tree.holds, missing]
    exact Bool.false_ne_true
  have loaded := orderly.loaded rfl Unit (fun _ => some ()) () rfl
  rw [loadRecord_eq, if_neg unheld] at loaded
  cases loaded

/-- Two saves that collide can come in one another's way. -/
theorem Saves.exists_disturbed {ι : Type} [DecidableEq ι] {t : Tree} {path : ι → FilePath}
    {text : ι → String} {target : ι → Target} {i j : ι} (other : i ≠ j)
    (ready : ∀ i above, (path i).parent? = some above → t.isDirectory above = true)
    (targets : ∀ i, t.target? (path i) = some (target i))
    (first : (Tree.disk.saveRecord (path i) (text i) t).1 = .ok ())
    (second : (Tree.disk.saveRecord (path j) (text j) t).1 = .ok ())
    (collide : (target i).Collide (target j)) :
    ∃ s k, Reaches (begun t path text) s ∧ ¬ Orderly t (path k) (text k) s.tree (s.programs k) := by
  have clear := (saveRecord_ok_iff _ (ready i) (targets i)).mp first
  have clear' := (saveRecord_ok_iff _ (ready j) (targets j)).mp second
  rcases (Target.collide_iff _ _).mp collide with shared | overwritten | overwritten
  · obtain ⟨s, e, reaches, failed⟩ :=
      exists_failed_of_shared text other ready targets clear clear' shared
    refine ⟨s, j, reaches, fun orderly => ?_⟩
    cases (orderly.outcome _ failed).mpr second
  · obtain ⟨s, reaches, ended, -, gone⟩ :=
      exists_lost_of_overwritten text other ready targets clear clear' overwritten
    refine ⟨s, i, reaches, fun orderly => ?_⟩
    rw [ended] at orderly
    exact orderly.reached gone
  · obtain ⟨s, reaches, ended, -, gone⟩ :=
      exists_lost_of_overwritten text other.symm ready targets clear' clear overwritten
    refine ⟨s, j, reaches, fun orderly => ?_⟩
    rw [ended] at orderly
    exact orderly.reached gone

/-- Saves into directories that are there go on as if each were alone, provided no two of them collide;
two that collide, and that would succeed alone, can come in one another's way.  A save that fails leaves
the file at its path as it was. -/
theorem concurrent_saves_orderly {ι : Type} [DecidableEq ι] (t : Tree) (path : ι → FilePath)
    (text : ι → String) (target : ι → Target)
    (ready : ∀ i above, (path i).parent? = some above → t.isDirectory above = true)
    (targets : ∀ i, t.target? (path i) = some (target i)) :
    ((∀ i j, i ≠ j → ¬ (target i).Collide (target j)) →
      ∀ s, Saves.Reaches (.begun t path text) s →
        ∀ i, Orderly t (path i) (text i) s.tree (s.programs i)) ∧
    (∀ i j, i ≠ j → (Tree.disk.saveRecord (path i) (text i) t).1 = .ok () →
      (Tree.disk.saveRecord (path j) (text j) t).1 = .ok () → (target i).Collide (target j) →
      ∃ s k, Saves.Reaches (.begun t path text) s ∧
        ¬ Orderly t (path k) (text k) s.tree (s.programs k)) ∧
    ∀ p content e, (Tree.disk.saveRecord p content t).1 = .error e →
      Spared t (Tree.disk.saveRecord p content t).2 p := by
  refine ⟨fun apart s reaches i => ?_, fun i j other first second collide => ?_,
    fun p content e failed => saveRecord_error failed⟩
  · have sound := (Saves.sound_begun text target ready).reaches targets apart reaches
    exact (sound.phase i).orderly sound.same (ready i) (targets i)
  · exact Saves.exists_disturbed other ready targets first second collide

def shelf : Tree := (Tree.empty []).put ["records".toList] .directory

theorem concurrent_saves_orderly_differentStems :
    let path : Bool → FilePath := fun b => if b then ⟨"records/a.json"⟩ else ⟨"records/b.json"⟩
    let text : Bool → String := fun b => if b then "1" else "2"
    ∀ s, Saves.Reaches (.begun shelf path text) s →
      ∀ b, Orderly shelf (path b) (text b) s.tree (s.programs b) := by
  intro path text
  refine (concurrent_saves_orderly shelf path text
    (fun b => (["records".toList], (if b then "a.json" else "b.json").toList)) ?_ ?_).1 ?_
  · intro b above parent
    have same : ∀ b, (path b).parent? = some ⟨"records"⟩ := by decide +kernel
    cases (same b).symm.trans parent
    decide +kernel
  · decide +kernel
  · decide +kernel

/-- A record under the name of the temporary file of another is lost when the other is saved.  Of two
records whose names differ in the ending alone, one may fail to be saved. -/
theorem otherEnding_disturbed :
    (∃ s, Saves.Reaches (.begun (Tree.empty [])
        (fun b => if b then ⟨"a.json.tmp"⟩ else ⟨"a.json"⟩) fun b => if b then "1" else "2") s ∧
      s.programs true = .done (.ok ()) ∧ s.programs false = .done (.ok ()) ∧
      (Tree.disk.loadRecord some ⟨"a.json.tmp"⟩ s.tree).1 = .ok none) ∧
    ∃ s e, Saves.Reaches (.begun (Tree.empty [])
        (fun b => if b then ⟨"a.json"⟩ else ⟨"a.yaml"⟩) fun b => if b then "1" else "2") s ∧
      s.programs false = .done (.error e) := by
  let t := Tree.empty []
  have clear : ∀ name ∈ ["a.json.tmp", "a.json", "a.yaml"], t.Clear ⟨name⟩ ([], name.toList) := by
    have found : ∀ name ∈ ["a.json.tmp", "a.json", "a.yaml"],
        t.target? (Disk.temporary ⟨name⟩) = some (Target.temporary ([], name.toList)) ∧
          t.isDirectoryAt (Target.temporary ([], name.toList)).place = false ∧
          t.isDirectoryAt (Target.place ([], name.toList)) = false := by decide +kernel
    intro name member
    obtain ⟨target, file, replaceable⟩ := found name member
    exact ⟨⟨target, file⟩, replaceable⟩
  have other : true ≠ false := Bool.noConfusion
  refine ⟨?_, ?_⟩
  · let path : Bool → FilePath := fun b => if b then ⟨"a.json.tmp"⟩ else ⟨"a.json"⟩
    let target : Bool → Target := fun b => ([], if b then "a.json.tmp".toList else "a.json".toList)
    have parents : ∀ b, (path b).parent? = none := by decide +kernel
    have targets : ∀ b, t.target? (path b) = some (target b) := by decide +kernel
    obtain ⟨s, reaches, first, second, gone⟩ := Saves.exists_lost_of_overwritten
      (fun b => if b then "1" else "2") other
      (fun b above parent => by cases (parents b).symm.trans parent) targets
      (clear "a.json.tmp" (by simp)) (clear "a.json" (by simp)) (by decide +kernel)
    have unheld : ¬ s.tree.holds (path true) = true := by
      rw [Tree.holds, gone]
      exact Bool.false_ne_true
    exact ⟨s, reaches, first, second, (loadRecord_eq ..).trans (if_neg unheld)⟩
  · let path : Bool → FilePath := fun b => if b then ⟨"a.json"⟩ else ⟨"a.yaml"⟩
    let target : Bool → Target := fun b => ([], if b then "a.json".toList else "a.yaml".toList)
    have parents : ∀ b, (path b).parent? = none := by decide +kernel
    have targets : ∀ b, t.target? (path b) = some (target b) := by decide +kernel
    obtain ⟨s, e, reaches, failed⟩ := Saves.exists_failed_of_shared
      (fun b => if b then "1" else "2") other
      (fun b above parent => by cases (parents b).symm.trans parent) targets
      (clear "a.json" (by simp)) (clear "a.yaml" (by simp)) (by decide +kernel)
    exact ⟨s, e, reaches, failed⟩

end HeatStack.Files
