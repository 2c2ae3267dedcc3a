import HeatStack.Proofs.FailedQuestions

/-! # Verdicts on a status

A status is looked at in capital letters and without the blanks around it.  Three conditions on this form
settle what the status means for an action (`Means`), and no two of them hold together, so that it makes no
difference which of them is looked at first.  Only the completion of the very action completes it, and a run
whose stack is complete has been answered just that (`Occurs.completed`). -/
set_option autoImplicit false

namespace HeatStack.Text

/-! ## Case and padding -/

section
variable {front cs back : List Char}

theorem trimChars_padded (before : ∀ c ∈ front, isBlank c = true) (behind : ∀ c ∈ back, isBlank c = true) :
    trimChars (front ++ (cs ++ back)) = trimChars cs := by
  have right (ds : List Char) : trimRight (ds ++ back) = trimRight ds := by
    rw [trimRight, List.reverse_append,
      List.dropWhile_append_of_pos fun c member => behind c (List.mem_reverse.mp member)]
    rfl
  have gone : trimLeft back = [] := List.dropWhile_eq_nil_iff.mpr behind
  rw [trimChars, trimChars, trimLeft, trimLeft, List.dropWhile_append_of_pos before, List.dropWhile_append]
  split
  · next empty =>
    rw [List.isEmpty_iff.mp empty]
    exact congrArg trimRight gone
  · exact right _

end

theorem lowerChar_of_large {c : Char} (large : ¬ c.toNat < 128) : lowerChar c = c := by
  have above : ¬ c ≤ 'Z' := fun le => large (Nat.lt_of_le_of_lt le (by decide))
  exact if_neg fun inside => above inside.2

theorem upperChar_lowerChar (c : Char) : upperChar (lowerChar c) = upperChar c := by
  have ascii : ∀ n < 128, upperChar (lowerChar (Char.ofNat n)) = upperChar (Char.ofNat n) := by decide
  by_cases small : c.toNat < 128
  · rw [← Char.ofNat_toNat c]
    exact ascii _ small
  · rw [lowerChar_of_large small]

theorem isBlank_lowerChar (c : Char) : isBlank (lowerChar c) = isBlank c := by
  have ascii : ∀ n < 128, isBlank (lowerChar (Char.ofNat n)) = isBlank (Char.ofNat n) := by decide
  by_cases small : c.toNat < 128
  · rw [← Char.ofNat_toNat c]
    exact ascii _ small
  · rw [lowerChar_of_large small]

theorem trimChars_map_lowerChar (cs : List Char) :
    trimChars (cs.map lowerChar) = (trimChars cs).map lowerChar := by
  have blank : isBlank ∘ lowerChar = isBlank := funext isBlank_lowerChar
  rw [trimChars, trimChars, trimRight, trimRight, trimLeft, trimLeft, List.dropWhile_map, blank,
    ← List.map_reverse, List.dropWhile_map, blank, ← List.map_reverse]

end HeatStack.Text

namespace HeatStack.Lifecycle
open HeatStack.Text

theorem normalStatus_padded {front back : String} (before : allBlank front = true)
    (behind : allBlank back = true) (status : String) :
    normalStatus (front ++ status ++ back) = normalStatus status := by
  rw [normalStatus, String.toList_append, String.toList_append, List.append_assoc,
    trimChars_padded (List.all_eq_true.mp before) (List.all_eq_true.mp behind)]
  rfl

theorem normalStatus_lower (status : String) : normalStatus (lower status) = normalStatus status := by
  rw [normalStatus, lower, String.toList_ofList, trimChars_map_lowerChar, List.map_map]
  exact congrArg (List.map · _) (funext upperChar_lowerChar)

/-! ## The conditions -/

/-- The status that completes the action, and no other. -/
def Action.completion (action : Action) : List Char := action.name.toList ++ "_COMPLETE".toList

/-- What a status in its normal form means for an action, by the condition that it meets. -/
inductive Means (action : Action) (u : List Char) : Observation → Prop
  | rolledBack : "ROLLBACK_COMPLETE".toList <:+ u → Means action u .rolledBack
  | failed : "_FAILED".toList <:+ u → Means action u .failed
  | complete : u = action.completion → Means action u .complete

theorem Action.completion_injective : Function.Injective Action.completion := by
  intro a b same
  cases a <;> cases b <;> first | rfl | exact absurd same (by decide)

theorem not_rollback_completion (action : Action) : ¬ "ROLLBACK_COMPLETE".toList <:+ action.completion := by
  cases action <;> decide

theorem not_failed_completion (action : Action) : ¬ "_FAILED".toList <:+ action.completion := by
  cases action <;> decide

theorem not_failed_rollback {u : List Char} (rollback : "ROLLBACK_COMPLETE".toList <:+ u) :
    ¬ "_FAILED".toList <:+ u := by
  intro failed
  have nested := List.suffix_of_suffix_length_le failed rollback (by decide)
  exact absurd nested (by decide)

namespace Means
variable {action : Action} {u : List Char} {o o' : Observation}

/-- No two of the conditions hold together. -/
theorem unique (means : Means action u o) (means' : Means action u o') : o = o' := by
  cases means with
  | rolledBack rollback =>
      cases means' with
      | rolledBack => rfl
      | failed failed => exact absurd failed (not_failed_rollback rollback)
      | complete same => exact absurd (same ▸ rollback) (not_rollback_completion action)
  | failed failed =>
      cases means' with
      | rolledBack rollback => exact absurd failed (not_failed_rollback rollback)
      | failed => rfl
      | complete same => exact absurd (same ▸ failed) (not_failed_completion action)
  | complete same =>
      cases means' with
      | rolledBack rollback => exact absurd (same ▸ rollback) (not_rollback_completion action)
      | failed failed => exact absurd (same ▸ failed) (not_failed_completion action)
      | complete => rfl

/-- What is under way meets none of them. -/
theorem not_inProgress (ends : "_IN_PROGRESS".toList <:+ u) : ¬ Means action u o := by
  intro means
  cases means with
  | rolledBack rollback =>
      have nested := List.suffix_of_suffix_length_le ends rollback (by decide)
      exact absurd nested (by decide)
  | failed failed =>
      have nested := List.suffix_of_suffix_length_le failed ends (by decide)
      exact absurd nested (by decide)
  | complete same =>
      subst same
      revert ends
      cases action <;> decide

/-- Nor does the completion of another action. -/
theorem not_other {other : Action} (different : other ≠ action) : ¬ Means action other.completion o := by
  intro means
  cases means with
  | rolledBack rollback => exact not_rollback_completion other rollback
  | failed failed => exact not_failed_completion other failed
  | complete same => exact different (Action.completion_injective same)

end Means

/-! ## The order of the conditions -/

/-- The conditions with their verdicts, in the order in which they are looked at. -/
def Action.tests (action : Action) : List ((List Char → Bool) × Observation) :=
  [("ROLLBACK_COMPLETE".toList.isSuffixOf, .rolledBack), ("_FAILED".toList.isSuffixOf, .failed),
    (fun u => u = action.completion, .complete)]

/-- The verdict of the first condition that is met. -/
def verdict (tests : List ((List Char → Bool) × Observation)) (u : List Char) : Observation :=
  ((tests.find? fun test => test.1 u).map Prod.snd).getD .pending

section
variable {action : Action} {u : List Char} {tests : List ((List Char → Bool) × Observation)}

theorem means_iff_tests (o : Observation) :
    Means action u o ↔ ∃ test ∈ action.tests, test.1 u = true ∧ test.2 = o := by
  constructor
  · intro means
    cases means with
    | rolledBack rollback => exact ⟨_, .head _, List.isSuffixOf_iff_suffix.mpr rollback, rfl⟩
    | failed failed => exact ⟨_, .tail _ (.head _), List.isSuffixOf_iff_suffix.mpr failed, rfl⟩
    | complete same => exact ⟨_, .tail _ (.tail _ (.head _)), decide_eq_true same, rfl⟩
  · rintro ⟨test, listed, passes, rfl⟩
    simp only [Action.tests, List.mem_cons, List.not_mem_nil, or_false] at listed
    rcases listed with rfl | rfl | rfl
    · exact .rolledBack (List.isSuffixOf_iff_suffix.mp passes)
    · exact .failed (List.isSuffixOf_iff_suffix.mp passes)
    · exact .complete (of_decide_eq_true passes)

theorem verdict_of_means (order : tests.Perm action.tests) {o : Observation} (means : Means action u o) :
    verdict tests u = o := by
  obtain ⟨test, listed, passes, rfl⟩ := (means_iff_tests o).mp means
  have found : (tests.find? fun test => test.1 u).isSome = true :=
    List.find?_isSome.mpr ⟨test, order.mem_iff.mpr listed, passes⟩
  obtain ⟨first, here⟩ := Option.isSome_iff_exists.mp found
  have meansFirst : Means action u first.2 := (means_iff_tests _).mpr
    ⟨first, order.mem_iff.mp (List.mem_of_find?_eq_some here),
      List.find?_some (p := fun test : (List Char → Bool) × Observation => test.1 u) here, rfl⟩
  rw [verdict, here]
  exact meansFirst.unique means

theorem verdict_of_no_means (order : tests.Perm action.tests) (none_met : ∀ o, ¬ Means action u o) :
    verdict tests u = .pending := by
  have nothing : (tests.find? fun test => test.1 u) = none := by
    rw [List.find?_eq_none]
    exact fun test listed passes =>
      none_met test.2 ((means_iff_tests _).mpr ⟨test, order.mem_iff.mp listed, passes, rfl⟩)
  rw [verdict, nothing]
  rfl

theorem verdict_cons (test : List Char → Bool) (o : Observation) :
    verdict ((test, o) :: tests) u = if test u then o else verdict tests u := by
  unfold verdict
  rw [List.find?_cons]
  dsimp only
  cases test u <;> rfl

theorem classify_eq_verdict (s : RemoteStatus) :
    classify action (some s) = verdict action.tests (normalStatus s.status) := by
  rw [Action.tests, verdict_cons, verdict_cons, verdict_cons]
  simp only [decide_eq_true_eq]
  rfl

end

/-- An answer that completes the action. -/
inductive Completes (action : Action) : Option RemoteStatus → Prop
  | reported (s : RemoteStatus) : normalStatus s.status = action.completion → Completes action (some s)
  | gone : action = .delete → Completes action none

theorem classify_of_means {action : Action} {s : RemoteStatus} {o : Observation}
    (means : Means action (normalStatus s.status) o) : classify action (some s) = o := by
  rw [classify_eq_verdict]
  exact verdict_of_means (List.Perm.refl _) means

theorem classify_of_no_means {action : Action} {s : RemoteStatus}
    (none_met : ∀ o, ¬ Means action (normalStatus s.status) o) : classify action (some s) = .pending := by
  rw [classify_eq_verdict]
  exact verdict_of_no_means (List.Perm.refl _) none_met

theorem classify_eq_complete_iff (action : Action) (s : RemoteStatus) :
    classify action (some s) = .complete ↔ normalStatus s.status = action.completion := by
  refine ⟨fun complete => ?_, fun same => classify_of_means (.complete same)⟩
  by_cases met : ∃ o, Means action (normalStatus s.status) o
  · obtain ⟨o, means⟩ := met
    cases (classify_of_means means).symm.trans complete
    cases means with
    | complete same => exact same
  · cases (classify_of_no_means (not_exists.mp met)).symm.trans complete

theorem completes_of_classify {action : Action} {status : Option RemoteStatus}
    (complete : classify action status = .complete) : Completes action status := by
  cases status with
  | some s => exact .reported s ((classify_eq_complete_iff action s).mp complete)
  | none =>
      cases action with
      | delete => exact .gone rfl
      | create => cases complete
      | update => cases complete

theorem normalStatus_completion (action : Action) :
    normalStatus (String.ofList action.completion) = action.completion := by
  cases action <;> decide

/-! ## Runs -/

namespace Setting
variable {s : Setting} {token : Bool} {started : Nat} {p : Progress} {m m' : Moment} {o : Outcome}

theorem Decides.completes {n : Nat} (decides : s.Decides n .complete) :
    ∃ status, Reads (s.service.status n).result status ∧ Completes s.options.action status := by
  generalize last : State.complete = state at decides
  cases decides with
  | final status _ reads final =>
      subst last
      refine ⟨status, reads, completes_of_classify ?_⟩
      generalize classify s.options.action status = observed at final
      cases final
      rfl
  | exhausted => cases last

/-- The last answer has completed the action. -/
def Completed (s : Setting) (p : Progress) : Prop := ∃ n, p.polls = n + 1 ∧ s.Decides n .complete

/-- A run is complete only by an answer. -/
def Justified (s : Setting) (m : Moment) : Prop :=
  match m.phase with
  | .fetching _ _ => s.Completed m.progress
  | .ended o => o.state = .complete ∨ o.status = .success → s.Completed m.progress
  | _ => True

theorem justified_conclude (state : State) (under : p.trail.state.isTerminal = false)
    (completed : state = .complete → s.Completed p) (reason : String) :
    s.Justified (s.conclude token p state reason) := by
  refine conclude_cases (P := s.Justified) (fun _ good => ?_) (fun complete _ => completed complete)
  have settled : (s.settle p state reason).trail.state = state :=
    Trail.state_transition _ _ state reason under
  refine completed ?_
  rcases good with complete | success
  · exact settled.symm.trans complete
  · change BuildStatus.ofState state = .success at success
    cases state <;> first | rfl | cases success

theorem justified_look (inProgress : p.trail.state = .inProgress) :
    s.Justified (s.look token started p) := by
  have under := p.trail.not_terminal_of_eq inProgress rfl
  refine look_cases (P := s.Justified) (fun state reason stopped => ?_) (fun _ _ => trivial)
  refine justified_conclude _ under (fun complete => ?_) reason
  subst complete
  rcases stopped with other | other <;> cases other

theorem justified_hear (counts : s.Counts p) (inProgress : p.trail.state = .inProgress) :
    s.Justified (s.hear token started p) := by
  obtain ⟨-, polls, -, state⟩ := s.heeded_course p
  have decides := heeded_decides counts
  refine hear_cases (P := s.Justified) (fun q last reason answer => ?_) (fun _ _ => trivial)
  rw [answer] at polls state decides
  have under := q.trail.not_terminal_of_eq (state.trans inProgress) rfl
  refine justified_conclude _ under (fun complete => ?_) reason
  exact ⟨p.polls, polls, complete ▸ (decides last).mp ⟨reason, rfl⟩⟩

theorem justified_move (placed : s.Placed m) (justified : s.Justified m) (move : s.Moves m m') :
    s.Justified m' := by
  cases move with
  | cancel =>
      obtain ⟨phase, p, token⟩ := m
      cases phase <;> exact justified
  | pass phase p token due time ends =>
      cases phase with
      | ended o => cases ends
      | _ => exact justified
  | enter token =>
      refine enter_cases (P := s.Justified) (fun _ _ => trivial) (fun _ => ?_) (fun _ => trivial)
      exact justified_conclude .aborted s.running_start State.noConfusion _
  | accept since p token =>
      have under := p.trail.not_terminal_of_eq placed.1.state rfl
      refine accept_cases (P := s.Justified) (fun _ _ => ?_) (fun _ => ?_)
      · exact justified_conclude .failed under State.noConfusion _
      · exact justified_look (Trail.state_transition _ _ .inProgress _ under)
  | hear started since p token => exact justified_hear placed.counts placed.state
  | sleep started since p token => exact justified_look placed.state
  | wake started since p => exact justified_look placed.state
  | fetch reason since p token => exact fun _ => justified

/-- A run whose stack is complete has last been answered what completes its action. -/
theorem Occurs.completed (occurs : s.Occurs ⟨.ended o, p, token⟩)
    (good : o.state = .complete ∨ o.status = .success) :
    ∃ n status, questions o.calls = n + 1 ∧ Reads (s.service.status n).result status ∧
      Completes s.options.action status := by
  have justified : s.Justified ⟨.ended o, p, token⟩ :=
    occurs.keeps_placed trivial fun _ _ => justified_move
  obtain ⟨n, polls, decides⟩ := justified good
  obtain ⟨status, reads, completes⟩ := decides.completes
  exact ⟨n, status, (Occurs.questions_eq occurs).trans polls, reads, completes⟩

end Setting

/-- What a status means for an action is settled by the action and the normal form of the status, which has
no case and no padding; the reason has no part in it.  The three conditions exclude one another, so that they
give the same verdict in whatever order they are looked at.  What is under way, or the completion of another
action, is no verdict yet; one form alone completes an action, and without it no run is complete, unless a
stack that was to be deleted is gone. -/
theorem status_verdicts :
    (∀ action s s', normalStatus s.status = normalStatus s'.status →
      classify action (some s) = classify action (some s')) ∧
    (∀ front back status status', allBlank front = true → allBlank back = true →
      lower status = lower status' →
      normalStatus (front ++ status ++ back) = normalStatus status') ∧
    (∀ action u o o', Means action u o → Means action u o' → o = o') ∧
    (∀ (action : Action) s tests, tests.Perm action.tests →
      verdict tests (normalStatus s.status) = classify action (some s)) ∧
    (∀ action s o, Means action (normalStatus s.status) o → classify action (some s) = o) ∧
    (∀ action s, "_IN_PROGRESS".toList <:+ normalStatus s.status →
      classify action (some s) = .pending) ∧
    (∀ action other : Action, other ≠ action → ∀ s, normalStatus s.status = other.completion →
      classify action (some s) = .pending) ∧
    (∀ action, ∃! u, ∀ s, classify action (some s) = .complete ↔ normalStatus s.status = u) ∧
    ∀ (s : Setting) (o : Outcome), (s.Ends s.beginning o ∨ ∃ fuel, s.run fuel = .ok (some o)) →
      o.state = .complete ∨ o.status = .success →
      ∃ n status, questions o.calls = n + 1 ∧ Reads (s.service.status n).result status ∧
        Completes s.options.action status := by
  refine ⟨fun action s s' same => ?_, fun front back status status' before behind same => ?_,
    fun _ _ _ _ => Means.unique, fun action s tests order => ?_, fun _ _ _ => classify_of_means,
    fun action s ends => classify_of_no_means fun _ => Means.not_inProgress ends,
    fun action other different s same => classify_of_no_means fun o => ?_,
    fun action => ⟨action.completion, classify_eq_complete_iff action, fun u only => ?_⟩,
    fun s o ended good => ?_⟩
  · rw [classify_eq_verdict, classify_eq_verdict, same]
  · rw [normalStatus_padded before behind, ← normalStatus_lower, same, normalStatus_lower]
  · by_cases met : ∃ o, Means action (normalStatus s.status) o
    · obtain ⟨o, means⟩ := met
      rw [verdict_of_means order means, classify_of_means means]
    · rw [verdict_of_no_means order (not_exists.mp met), classify_of_no_means (not_exists.mp met)]
  · rw [same]
    exact Means.not_other different
  · have own := only ⟨String.ofList action.completion, ""⟩
    rw [classify_eq_complete_iff, normalStatus_completion] at own
    exact (own.mp rfl).symm
  · obtain ⟨p, token, occurs⟩ := Setting.occurs_of_end ended
    exact Setting.Occurs.completed occurs good

theorem status_verdicts_lateOutputs :
    normalStatus ("\u00a0" ++ "Create_Complete" ++ "\r\n") = Action.create.completion ∧
    classify .create (some ⟨"\u00a0" ++ "Create_Complete" ++ "\r\n", "done"⟩) = .complete ∧
    classify .update (some ⟨"create_complete", ""⟩) = .pending ∧
    classify .update (some ⟨"rollback_in_progress", ""⟩) = .pending ∧
    verdict Action.update.tests.reverse (normalStatus "Update_Rollback_Complete") =
      classify .update (some ⟨"Update_Rollback_Complete", ""⟩) ∧
    ∃ o, Setting.lateOutputs.run 4 = .ok (some o) ∧ o.status = .unstable ∧
      ∃ n status, questions o.calls = n + 1 ∧
        Reads (Setting.lateOutputs.service.status n).result status ∧ Completes .create status := by
  obtain ⟨-, padded, -, order, means, going, other, -, runs⟩ := status_verdicts
  have written : normalStatus ("\u00a0" ++ "Create_Complete" ++ "\r\n") = normalStatus "CREATE_COMPLETE" :=
    padded "\u00a0" "\r\n" "Create_Complete" "CREATE_COMPLETE" (by decide) (by decide) (by decide)
  have normal : normalStatus "CREATE_COMPLETE" = Action.create.completion := normalStatus_completion .create
  obtain ⟨o, ran, complete, unstable⟩ : ∃ o, Setting.lateOutputs.run 4 = .ok (some o) ∧
      o.state = .complete ∧ o.status = .unstable := by
    rw [Setting.run_of_checked Setting.check_localProfile rfl]
    exact ⟨_, rfl, rfl, rfl⟩
  refine ⟨written.trans normal, ?_, ?_, ?_, ?_, o, ran, unstable, ?_⟩
  · exact means .create _ .complete (.complete (written.trans normal))
  · exact other .update .create (by decide) _ (by decide)
  · exact going .update _ (by decide)
  · exact order .update ⟨"Update_Rollback_Complete", ""⟩ _ (List.reverse_perm _)
  · exact runs Setting.lateOutputs o (.inr ⟨4, ran⟩) (.inl complete)

end HeatStack.Lifecycle
