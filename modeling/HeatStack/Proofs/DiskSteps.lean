import HeatStack.Files.Record
import HeatStack.Proofs.FilePlaces

/-! # A save, step by step

The program of a save is cut at each look at the disk and each change of it, so that others can work on
the disk in between.  Taken in one go it is the program as before (`run_saveRecord`).  A save whose
directory is there comes to its first change without having changed anything (`approaches_saveRecord`),
and from there it has two steps. -/
set_option autoImplicit false
namespace HeatStack.Files

/-- A program on a tree of files: what its next step does to the tree, and what is left to do, each by
the tree that the step finds. -/
inductive Steps (α : Type)
  | done (result : α)
  | step (effect : Tree → Tree) (next : Tree → Steps α)

namespace Steps
variable {α β : Type}

def bind : Steps α → (α → Steps β) → Steps β
  | done a, f => f a
  | step effect next, f => step effect fun t => (next t).bind f

instance : Monad Steps where
  pure := done
  bind := bind

def once (act : StateM Tree α) : Steps α := step (fun t => (act t).2) fun t => done (act t).1

def run : Steps α → StateM Tree α
  | done a => pure a
  | step effect next => fun t => (next t).run (effect t)

end Steps

def Tree.steps : Disk Steps where
  read p := .once (Tree.disk.read p)
  holds p := .once (Tree.disk.holds p)
  isDirectory p := .once (Tree.disk.isDirectory p)
  makeDirectory p := .once (Tree.disk.makeDirectory p)
  write p content := .once (Tree.disk.write p content)
  rename source target := .once (Tree.disk.rename source target)

namespace Steps
variable {α β : Type}

/-! ## All steps at once -/

@[simp] theorem run_once (act : StateM Tree α) : (once act).run = act := rfl

@[simp] theorem run_pure (a : α) : (pure a : Steps α).run = pure a := rfl

@[simp] theorem run_bind (x : Steps α) (f : α → Steps β) :
    (x >>= f).run = x.run >>= fun a => (f a).run := by
  funext t
  induction x generalizing t with
  | done a => rfl
  | step effect next ih => exact ih t (effect t)

theorem run_write (p : FilePath) (content : Bytes) :
    (Tree.steps.write p content).run = Tree.disk.write p content := rfl

theorem run_unlessDirectory (p : FilePath) (result : Except Fault Unit) :
    (Disk.makeLineage.unlessDirectory Tree.steps p result).run =
      Disk.makeLineage.unlessDirectory Tree.disk p result := by
  cases result <;> rfl

theorem run_makeLineage (line : List FilePath) :
    (Tree.steps.makeLineage line).run = Tree.disk.makeLineage line := by
  induction line with
  | nil => rfl
  | cons p above ih =>
      rw [Disk.makeLineage, Disk.makeLineage, run_bind]
      refine bind_congr fun made => ?_
      split
      · rfl
      · rw [run_bind, ih]
        refine bind_congr fun below => ?_
        cases below with
        | error fault => rfl
        | ok _ =>
            rw [run_bind]
            exact bind_congr fun again => run_unlessDirectory p again
      · exact run_unlessDirectory p _

theorem run_makeParent (p : FilePath) :
    (Tree.steps.makeParent p).run = Tree.disk.makeParent p := by
  unfold Disk.makeParent
  split
  · rfl
  · rw [run_bind, Disk.makeDirectories, run_makeLineage]
    rfl

theorem run_replace (p : FilePath) (content : String) :
    (Tree.steps.replace p content).run = Tree.disk.replace p content := by
  unfold Disk.replace
  rw [run_bind, run_makeParent]
  refine bind_congr fun made => ?_
  cases made with
  | error refusal => rfl
  | ok _ =>
      rw [run_bind, run_write]
      dsimp only
      refine bind_congr fun written => ?_
      cases written <;> rfl

theorem run_saveRecord (p : FilePath) (text : String) :
    (Tree.steps.saveRecord p text).run = Tree.disk.saveRecord p text := by
  unfold Disk.saveRecord
  rw [run_bind, run_replace]
  rfl

end Steps

/-! ## The two steps of a save -/

open Steps Disk

def refused (refusal : Refusal) : RecordError := .inaccessible refusal.1 refusal.2

/-- The second step of a save. -/
def moving (p : FilePath) : Steps (Except RecordError Unit) :=
  .step (fun t => (Tree.disk.rename (temporary p) p t).2) fun t =>
    .done (((Tree.disk.rename (temporary p) p t).1.mapError fun fault => (p, fault)).mapError refused)

/-- The first step of a save, with the second to come. -/
def writing (p : FilePath) (text : String) : Steps (Except RecordError Unit) :=
  .step (fun t => (Tree.disk.write (temporary p) text.toUTF8.toList t).2) fun t =>
    match (Tree.disk.write (temporary p) text.toUTF8.toList t).1 with
    | .ok () => moving p
    | .error fault => .done (.error (refused (temporary p, fault)))

theorem bind_assoc {α β γ : Type} (x : Steps α) (f : α → Steps β) (g : β → Steps γ) :
    (x.bind f).bind g = x.bind fun a => (f a).bind g := by
  induction x with
  | done a => rfl
  | step effect next ih => exact congrArg (Steps.step effect) (funext ih)

theorem saveRecord_eq (p : FilePath) (text : String) : Tree.steps.saveRecord p text =
    (Tree.steps.makeParent p).bind fun made =>
      match made with
      | .ok () => writing p text
      | .error refusal => .done (.error (refused refusal)) := by
  refine (bind_assoc ..).trans (congrArg _ (funext fun made => ?_))
  cases made with
  | error refusal => rfl
  | ok _ =>
      refine congrArg (Steps.step _) (funext fun t => ?_)
      change Steps.bind (Steps.bind (.done (Tree.disk.write (temporary p) text.toUTF8.toList t).1) _) _ = _
      cases (Tree.disk.write (temporary p) text.toUTF8.toList t).1 <;> rfl

/-! ## The way to the first step -/

/-- The program comes to `goal` by steps that change nothing, in any tree with the same directories. -/
inductive Approaches {α : Type} (t : Tree) (goal : Steps α) : Steps α → Prop
  | here : Approaches t goal goal
  | step {effect : Tree → Tree} {next : Tree → Steps α}
      (idle : ∀ u, t.SameDirectories u → effect u = u)
      (onward : ∀ u, t.SameDirectories u → Approaches t goal (next u)) :
      Approaches t goal (.step effect next)

theorem Approaches.bind {α β : Type} {t : Tree} {a : α} {x : Steps α} {f : α → Steps β}
    {goal : Steps β} (comes : Approaches t (.done a) x) (same : f a = goal) :
    Approaches t goal (x.bind f) := by
  subst same
  induction comes with
  | here => exact .here
  | step idle _ ih => exact .step idle ih

theorem approaches_makeParent {t : Tree} {p : FilePath}
    (there : ∀ above, p.parent? = some above → t.isDirectory above = true) :
    Approaches t (.done (.ok ())) (Tree.steps.makeParent p) := by
  unfold makeParent
  split
  · exact .here
  · next above parent =>
    obtain ⟨rest, line⟩ := lineage_parent parent
    have directory := there above parent
    have made : ∀ u, t.SameDirectories u →
        Tree.disk.makeDirectory above u = (.error .alreadyThere, u) := by
      intro u same
      have refused := Tree.makeDirectory_of_isDirectory (Tree.isDirectory_of_same same directory)
      simp [Tree.disk, Tree.change, refused]
    have line : Approaches t (.done (.ok ())) (Tree.steps.makeDirectories above) := by
      rw [makeDirectories, line]
      refine .step (fun u same => congrArg Prod.snd (made u same)) fun u same => ?_
      change Approaches t _ (Steps.bind (.done (Tree.disk.makeDirectory above u).1) _)
      rw [made u same]
      refine .step (fun _ _ => rfl) fun v same' => ?_
      change Approaches t _ (Steps.done (if (Tree.disk.isDirectory above v).1 then _ else _))
      have found : (Tree.disk.isDirectory above v).1 = true :=
        Tree.isDirectory_of_same same' directory
      rw [if_pos found]
      exact .here
    exact line.bind rfl

/-- Where the directory is there, a save comes to its first step without a change. -/
theorem approaches_saveRecord {t : Tree} {p : FilePath}
    (there : ∀ above, p.parent? = some above → t.isDirectory above = true) (text : String) :
    Approaches t (writing p text) (Tree.steps.saveRecord p text) := by
  rw [saveRecord_eq]
  exact (approaches_makeParent there).bind rfl

end HeatStack.Files
