import HeatStack.CommandLine.Assignment
import HeatStack.Proofs.TableLookup
import HeatStack.Proofs.TextParts

/-! # Assigned values

An assignment gives the trimmed name before its first equals sign all that stands behind the sign
(`Assigns`); `Faulty` says of which texts this cannot be said, and what their error is.  A list of texts is
read from the front: the first faulty one stops the reading (`FaultyFirst`), and of several assignments to one
name the last one stays (`AssignedLast`).  Hence a table is read back from its assignments in any order. -/
set_option autoImplicit false
namespace HeatStack.CommandLine
open HeatStack.Text

def assignment (name value : String) : String := name ++ "=" ++ value

/-- The value that a text gives to a name: the name stands before the first equals sign, perhaps among
blanks, and is not left out. -/
inductive Assigns : String → String → String → Prop
  | written (front value : String) :
      '=' ∉ front.toList → allBlank front = false → Assigns (assignment front value) (trim front) value

/-- The error of a text that assigns nothing. -/
inductive Faulty : String → AssignmentError → Prop
  | noEquals (text : String) : '=' ∉ text.toList → Faulty text (.noEquals text)
  | noName (front value : String) :
      allBlank front = true → Faulty (assignment front value) (.noName (assignment front value))

/-- The last of the texts that give the name a value gives it this one. -/
def AssignedLast (texts : List String) (name value : String) : Prop :=
  ∃ before text after, texts = before ++ text :: after ∧ Assigns text name value ∧
    ∀ later ∈ after, ∀ other, ¬ Assigns later name other

/-- The first of the texts that assigns nothing has this error. -/
def FaultyFirst (texts : List String) (e : AssignmentError) : Prop :=
  ∃ before text after, texts = before ++ text :: after ∧
    (∀ earlier ∈ before, ∃ name value, Assigns earlier name value) ∧ Faulty text e

/-- A name that is read as it is written: not empty, with no equals sign and no blanks around it. -/
structure Bare (name : String) : Prop where
  filled : name ≠ ""
  free : '=' ∉ name.toList
  trimmed : trim name = name

variable {text name value front : String} {e : AssignmentError} {texts : List String}
  {pairs : List (String × String)}

/-! ## One text -/

theorem toList_assignment (front value : String) :
    (assignment front value).toList = front.toList ++ '=' :: value.toList := by
  simp [assignment]

theorem exists_assignment (equals : '=' ∈ text.toList) :
    ∃ front value, '=' ∉ front.toList ∧ text = assignment front value := by
  cases split : splitOnce '=' text.toList with
  | none => exact absurd equals (splitOnce_eq_none_iff.mp split)
  | some parts =>
      obtain ⟨front, value⟩ := parts
      obtain ⟨free, whole⟩ := splitOnce_eq_some_iff.mp split
      refine ⟨String.ofList front, String.ofList value, by rwa [String.toList_ofList], ?_⟩
      apply String.toList_injective
      rw [toList_assignment, String.toList_ofList, String.toList_ofList, whole]

theorem parseAssignment_assignment (free : '=' ∉ front.toList) (value : String) :
    parseAssignment (assignment front value) =
      if allBlank front then .error (.noName (assignment front value)) else .ok (trim front, value) := by
  have nameless : (trimChars front.toList).isEmpty = allBlank front := by
    rw [Bool.eq_iff_iff, List.isEmpty_iff, trimChars_eq_nil_iff, allBlank, List.all_eq_true]
  unfold parseAssignment
  rw [toList_assignment, splitOnce_append _ free]
  dsimp only
  rw [nameless, String.ofList_toList]
  rfl

theorem parseAssignment_of_free (free : '=' ∉ text.toList) :
    parseAssignment text = .error (.noEquals text) := by
  unfold parseAssignment
  rw [splitOnce_eq_none_iff.mpr free]

theorem parseAssignment_eq_ok_iff : parseAssignment text = .ok (name, value) ↔ Assigns text name value := by
  constructor
  · intro read
    by_cases equals : '=' ∈ text.toList
    · obtain ⟨front, rest, free, rfl⟩ := exists_assignment equals
      rw [parseAssignment_assignment free] at read
      cases blank : allBlank front with
      | true =>
          rw [blank] at read
          cases read
      | false =>
          rw [blank] at read
          cases read
          exact .written front value free blank
    · rw [parseAssignment_of_free equals] at read
      cases read
  · intro assigns
    cases assigns with
    | written front value free named => rw [parseAssignment_assignment free, named]; rfl

theorem parseAssignment_eq_error_iff : parseAssignment text = .error e ↔ Faulty text e := by
  constructor
  · intro read
    by_cases equals : '=' ∈ text.toList
    · obtain ⟨front, rest, free, rfl⟩ := exists_assignment equals
      rw [parseAssignment_assignment free] at read
      cases blank : allBlank front with
      | true =>
          rw [blank] at read
          cases read
          exact .noName front rest blank
      | false =>
          rw [blank] at read
          cases read
    · rw [parseAssignment_of_free equals] at read
      cases read
      exact .noEquals text equals
  · intro faulty
    cases faulty with
    | noEquals text free => exact parseAssignment_of_free free
    | noName front value blank =>
        have free : '=' ∉ front.toList := by
          intro equals
          have among := List.all_eq_true.mp blank _ equals
          exact absurd among (by decide)
        rw [parseAssignment_assignment free, blank]
        rfl

theorem Assigns.unique {name' value' : String} (assigns : Assigns text name value)
    (assigns' : Assigns text name' value') : name = name' ∧ value = value' := by
  have read := parseAssignment_eq_ok_iff.mpr assigns
  rw [parseAssignment_eq_ok_iff.mpr assigns'] at read
  cases read
  exact ⟨rfl, rfl⟩

theorem Bare.not_blank (bare : Bare name) : allBlank name = false := by
  rw [← Bool.not_eq_true, ← trim_eq_empty_iff, bare.trimmed]
  exact bare.filled

theorem Bare.assigns (bare : Bare name) (value : String) : Assigns (assignment name value) name value := by
  have written := Assigns.written name value bare.free bare.not_blank
  rw [bare.trimmed] at written
  exact written

/-! ## All of them -/

/-- The texts are read one by one into these pairs. -/
def ReadAs (texts : List String) (pairs : List (String × String)) : Prop :=
  List.Forall₂ (fun text pair => Assigns text pair.1 pair.2) texts pairs

theorem parsePairs_eq_ok_iff : parsePairs texts = .ok pairs ↔ ReadAs texts pairs := by
  unfold ReadAs
  induction texts generalizing pairs with
  | nil =>
      rw [List.forall₂_nil_left_iff, parsePairs, Except.ok.injEq]
      exact eq_comm
  | cons text texts ih =>
      rw [List.forall₂_cons_left_iff, parsePairs]
      constructor
      · intro read
        cases first : parseAssignment text with
        | error e =>
            rw [first] at read
            cases read
        | ok pair =>
            cases rest : parsePairs texts with
            | error e =>
                rw [first, rest] at read
                cases read
            | ok others =>
                rw [first, rest] at read
                cases read
                exact ⟨pair, others, parseAssignment_eq_ok_iff.mp first, ih.mp rest, rfl⟩
      · rintro ⟨pair, others, first, rest, rfl⟩
        rw [parseAssignment_eq_ok_iff.mpr first, ih.mpr rest]
        rfl

theorem not_faultyFirst_nil (e : AssignmentError) : ¬ FaultyFirst [] e := by
  rintro ⟨before, text, after, whole, -⟩
  simp at whole

theorem faultyFirst_cons_iff : FaultyFirst (text :: texts) e ↔
    Faulty text e ∨ (∃ name value, Assigns text name value) ∧ FaultyFirst texts e :=
  Table.exists_first_cons_iff

theorem parsePairs_eq_error_iff : parsePairs texts = .error e ↔ FaultyFirst texts e := by
  induction texts with
  | nil => exact ⟨nofun, fun faulty => absurd faulty (not_faultyFirst_nil e)⟩
  | cons text texts ih =>
      rw [parsePairs, faultyFirst_cons_iff, ← ih]
      constructor
      · intro read
        cases first : parseAssignment text with
        | error e' =>
            rw [first] at read
            cases read
            exact .inl (parseAssignment_eq_error_iff.mp first)
        | ok pair =>
            rw [first] at read
            cases rest : parsePairs texts with
            | ok others =>
                rw [rest] at read
                cases read
            | error e' =>
                rw [rest] at read
                cases read
                exact .inr ⟨⟨_, _, parseAssignment_eq_ok_iff.mp first⟩, rfl⟩
      · rintro (faulty | ⟨⟨name, value, assigns⟩, rest⟩)
        · rw [parseAssignment_eq_error_iff.mpr faulty]
        · rw [parseAssignment_eq_ok_iff.mpr assigns, rest]
          rfl

theorem exists_readAs_iff :
    (∃ pairs, ReadAs texts pairs) ↔ ∀ text ∈ texts, ∃ name value, Assigns text name value := by
  constructor
  · rintro ⟨pairs, read⟩
    induction read with
    | nil => simp
    | cons assigns read ih => exact List.forall_mem_cons.mpr ⟨⟨_, _, assigns⟩, ih⟩
  · intro assigned
    induction texts with
    | nil => exact ⟨[], .nil⟩
    | cons text texts ih =>
        obtain ⟨⟨name, value, assigns⟩, assigned⟩ := List.forall_mem_cons.mp assigned
        obtain ⟨pairs, read⟩ := ih assigned
        exact ⟨(name, value) :: pairs, .cons assigns read⟩

/-! ## What stays -/

theorem not_assignedLast_nil (name value : String) : ¬ AssignedLast [] name value := by
  rintro ⟨before, text, after, whole, -⟩
  simp at whole

theorem assignedLast_cons_iff : AssignedLast (text :: texts) name value ↔
    AssignedLast texts name value ∨
      (∀ later ∈ texts, ∀ other, ¬ Assigns later name other) ∧ Assigns text name value := by
  constructor
  · rintro ⟨before, text', after, whole, assigns, last⟩
    cases before with
    | nil =>
        cases whole
        exact .inr ⟨last, assigns⟩
    | cons first before =>
        cases whole
        exact .inl ⟨before, text', after, rfl, assigns, last⟩
  · rintro (⟨before, text', after, rfl, assigns, last⟩ | ⟨last, assigns⟩)
    · exact ⟨text :: before, text', after, rfl, assigns, last⟩
    · exact ⟨[], text, texts, rfl, assigns, last⟩

theorem lookup_eq_none_iff_of_readAs (read : ReadAs texts pairs) (name : String) :
    pairs.reverse.lookup name = none ↔ ∀ text ∈ texts, ∀ value, ¬ Assigns text name value := by
  induction read with
  | nil => simp
  | @cons text pair texts pairs assigns read ih =>
      rw [List.reverse_cons, List.lookup_append, Option.or_eq_none_iff, ih, Table.lookup_cons_ite,
        List.forall_mem_cons, and_comm]
      refine and_congr_left' ?_
      by_cases same : name = pair.1
      · rw [if_pos same]
        exact ⟨nofun, fun unassigned => absurd (same ▸ assigns) (unassigned pair.2)⟩
      · rw [if_neg same]
        exact ⟨fun _ value assigns' => same (assigns'.unique assigns).1, fun _ => rfl⟩

/-- A later assignment hides those before it. -/
theorem lookup_eq_some_iff_of_readAs (read : ReadAs texts pairs) (name value : String) :
    pairs.reverse.lookup name = some value ↔ AssignedLast texts name value := by
  induction read with
  | nil => exact ⟨nofun, fun last => absurd last (not_assignedLast_nil name value)⟩
  | @cons text pair texts pairs assigns read ih =>
      rw [List.reverse_cons, List.lookup_append, Option.or_eq_some_iff, ih, assignedLast_cons_iff,
        lookup_eq_none_iff_of_readAs read, Table.lookup_cons_ite]
      refine or_congr_right (and_congr_right' ?_)
      by_cases same : name = pair.1
      · rw [if_pos same, Option.some.injEq]
        constructor
        · rintro rfl
          exact same ▸ assigns
        · intro assigns'
          exact (assigns.unique assigns').2
      · rw [if_neg same]
        exact ⟨nofun, fun assigns' => absurd (assigns'.unique assigns).1 same⟩

/-! ## The table -/

theorem parseAssignments_eq_ok_iff {t : Table String} :
    parseAssignments texts = .ok t ↔ ∃ pairs, ReadAs texts pairs ∧ Table.ofList pairs = t := by
  simp only [parseAssignments, ← parsePairs_eq_ok_iff]
  cases parsePairs texts with
  | error e => exact ⟨nofun, nofun⟩
  | ok pairs => simp [Except.map]

theorem parseAssignments_eq_error_iff : parseAssignments texts = .error e ↔ FaultyFirst texts e := by
  rw [← parsePairs_eq_error_iff, parseAssignments]
  cases parsePairs texts with
  | error e' => simp [Except.map]
  | ok pairs => exact ⟨nofun, nofun⟩

theorem readAs_assignments {entries : List (String × String)} (bare : ∀ entry ∈ entries, Bare entry.1) :
    ReadAs (entries.map fun entry => assignment entry.1 entry.2) entries := by
  unfold ReadAs
  rw [List.forall₂_map_left_iff, List.forall₂_same]
  intro entry member
  exact (bare entry member).assigns entry.2

/-- A list of assignments is read just when each of them gives a value to a name; otherwise the first that does
not is reported.  The names of the table are those that are given a value, and each has its last one.  A table
of names that are read as they are written comes back from its assignments, whatever their order. -/
theorem assignments_read_back (texts : List String) :
    ((∃ t, parseAssignments texts = .ok t) ↔ ∀ text ∈ texts, ∃ name value, Assigns text name value) ∧
    (∀ t, parseAssignments texts = .ok t →
      (∀ name, name ∈ t.keys ↔ ∃ text ∈ texts, ∃ value, Assigns text name value) ∧
      ∀ name value, t.get? name = some value ↔ AssignedLast texts name value) ∧
    (∀ e, parseAssignments texts = .error e ↔ FaultyFirst texts e) ∧
    ∀ t : Table String, (∀ name ∈ t.keys, Bare name) → ∀ entries : List (String × String),
      entries.Perm t.entries →
      parseAssignments (entries.map fun entry => assignment entry.1 entry.2) = .ok t := by
  refine ⟨?_, ?_, fun e => parseAssignments_eq_error_iff, ?_⟩
  · rw [← exists_readAs_iff]
    constructor
    · rintro ⟨t, parsed⟩
      obtain ⟨pairs, read, -⟩ := parseAssignments_eq_ok_iff.mp parsed
      exact ⟨pairs, read⟩
    · rintro ⟨pairs, read⟩
      exact ⟨_, parseAssignments_eq_ok_iff.mpr ⟨pairs, read, rfl⟩⟩
  · intro t parsed
    obtain ⟨pairs, read, rfl⟩ := parseAssignments_eq_ok_iff.mp parsed
    constructor
    · intro name
      have absent := lookup_eq_none_iff_of_readAs read name
      rw [← Table.get?_ofList, Table.get?_eq_none_iff] at absent
      rw [← not_iff_not, absent]
      push Not
      rfl
    · intro name value
      rw [Table.get?_ofList]
      exact lookup_eq_some_iff_of_readAs read name value
  · intro t bare entries perm
    refine parseAssignments_eq_ok_iff.mpr ⟨entries, readAs_assignments ?_, Table.ofList_of_perm t perm⟩
    intro entry member
    exact bare entry.1 (List.mem_map_of_mem (perm.mem_iff.mp member))

/-- The second value of `a` hides the first, and keeps its own equals sign and blanks. -/
theorem assignments_read_back_repeated :
    (∃ t, parseAssignments [" a =1", "b=", "a=2 = 3"] = .ok t ∧ t.get? "a" = some "2 = 3") ∧
    parseAssignments ["b=", "a=2 = 3"] = .ok (Table.ofList [("a", "2 = 3"), ("b", "")]) := by
  have bare : ∀ name ∈ ["a", "b"], Bare name := by
    intro name listed
    simp only [List.mem_cons, List.not_mem_nil, or_false] at listed
    rcases listed with rfl | rfl <;> exact ⟨by decide, by decide, by decide⟩
  obtain ⟨-, last, -, back⟩ := assignments_read_back [" a =1", "b=", "a=2 = 3"]
  refine ⟨⟨_, rfl, ?_⟩, ?_⟩
  · refine ((last _ rfl).2 "a" "2 = 3").mpr ⟨[" a =1", "b="], "a=2 = 3", [], rfl, ?_, by simp⟩
    exact (bare "a" (by simp)).assigns "2 = 3"
  · exact back (Table.ofList [("a", "2 = 3"), ("b", "")]) bare [("b", ""), ("a", "2 = 3")] (List.Perm.swap ..)

end HeatStack.CommandLine
