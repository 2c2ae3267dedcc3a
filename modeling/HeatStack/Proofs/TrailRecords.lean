import HeatStack.Lifecycle.Trail
import HeatStack.Proofs.CompactJson
import HeatStack.Proofs.InstantText

/-! # Trails read back

The text of a trail is read back line by line.  A record is an object in which the time stands before
the members of the event; the names differ, so the time is told from the others and the word for the
kind tells what they mean.  No line holds a control character, whatever texts the record holds, so
the breaks of the text are those between the lines. -/
set_option autoImplicit false
namespace HeatStack.Lifecycle
open HeatStack.Json HeatStack.Json.Reading HeatStack.Time

namespace Event

/-! ## The members of an event -/

theorem distinct_members (e : Event) : (e.members.map Prod.fst).Nodup := by
  cases e <;> simp [members]

theorem untimed_members (e : Event) : ∀ m ∈ e.members, m.1 ≠ "at" := by
  cases e <;> simp [members]

theorem value?_members (room : Nat) (e : Event) :
    ((Value.object e.members).toSyntax.value? (room + 1)).isSome = true := by
  have text (s : String) : ((Value.string s).toSyntax.value? room).isSome = true := by
    rw [Value.toSyntax, Syntax.value?]
    rfl
  refine Syntax.value?_object (List.forall_mem_cons.mpr ⟨text e.word, ?_⟩)
  cases e with
  | stateChanged source target reason => simp [text]
  | remoteStatus s => simp [text]
  | stackMissing => simp
  | pollFailed error consecutive =>
      have small : consecutive.toNat < Nat.pow 2 64 :=
        Nat.lt_trans consecutive.toNat_lt (by decide)
      simp [text, Syntax.value?_nat room small]
  | outputsUnavailable error => simp [text]

theorem state?_word (s : State) : state? (Value.string s.word).toSyntax = some s := by
  cases s <;> rfl

/-- An event is read from its members. -/
theorem ofObject?_members (e : Event) : ofObject? (Value.object e.members).toSyntax = some e := by
  have fields (names : List String) := fields?_known names e.distinct_members
  have field {α : Type} {name : String} {v : Value} (names : List String) (read : Syntax → Option α)
      (member : (name, v) ∈ e.members) (known : name ∈ names) :=
    required?_known read e.distinct_members member known
  have kind : required? _ "event" kind? = some e.word :=
    field ["event"] kind? (v := .string e.word) (List.mem_cons_self ..) (List.mem_cons_self ..)
  unfold ofObject?
  refine Option.bind_eq_some_iff.mpr ⟨_, fields ["event"],
    Option.bind_eq_some_iff.mpr ⟨e.word, kind, ?_⟩⟩
  -- The word has told the kind of the event; its own fields are left to read.
  cases e with
  | stateChanged source target reason =>
      have left : required? _ "from" state? = some source :=
        (field ["from", "to", "reason"] state? (v := .string source.word)
          (by simp [members]) (by simp)).trans (state?_word source)
      have entered : required? _ "to" state? = some target :=
        (field ["from", "to", "reason"] state? (v := .string target.word)
          (by simp [members]) (by simp)).trans (state?_word target)
      have why : required? _ "reason" text? = some reason :=
        field ["from", "to", "reason"] text? (v := .string reason) (by simp [members]) (by simp)
      exact Option.bind_eq_some_iff.mpr ⟨_, fields ["from", "to", "reason"],
        Option.bind_eq_some_iff.mpr ⟨source, left, Option.bind_eq_some_iff.mpr ⟨target, entered,
          Option.bind_eq_some_iff.mpr ⟨reason, why, rfl⟩⟩⟩⟩
  | remoteStatus s =>
      have status : required? _ "status" text? = some s.status :=
        field ["status", "reason"] text? (v := .string s.status) (by simp [members]) (by simp)
      have why : required? _ "reason" text? = some s.reason :=
        field ["status", "reason"] text? (v := .string s.reason) (by simp [members]) (by simp)
      exact Option.bind_eq_some_iff.mpr ⟨_, fields ["status", "reason"],
        Option.bind_eq_some_iff.mpr ⟨s.status, status,
          Option.bind_eq_some_iff.mpr ⟨s.reason, why, rfl⟩⟩⟩
  | stackMissing => rfl
  | pollFailed error consecutive =>
      have below : consecutive.toNat < Nat.pow 2 32 := consecutive.toNat_lt
      have fault : required? _ "error" text? = some error :=
        field ["error", "consecutive"] text? (v := .string error) (by simp [members]) (by simp)
      have count : required? _ "consecutive" (natural? (Nat.pow 2 32)) = some consecutive.toNat :=
        (field ["error", "consecutive"] _ (v := .nat consecutive.toNat)
          (by simp [members]) (by simp)).trans (natural?_nat (Nat.lt_trans below (by decide)) below)
      exact Option.bind_eq_some_iff.mpr ⟨_, fields ["error", "consecutive"],
        Option.bind_eq_some_iff.mpr ⟨error, fault, Option.bind_eq_some_iff.mpr
          ⟨consecutive.toNat, count, by rw [UInt32.ofNat_toNat]⟩⟩⟩
  | outputsUnavailable error =>
      have fault : required? _ "error" text? = some error :=
        field ["error"] text? (v := .string error) (by simp [members]) (by simp)
      exact Option.bind_eq_some_iff.mpr ⟨_, fields ["error"],
        Option.bind_eq_some_iff.mpr ⟨error, fault, rfl⟩⟩

end Event

/-! ## Lines -/

namespace Record

theorem ofSyntax?_json (r : Record) : ofSyntax? r.json.toSyntax = some r := by
  have distinct : ((("at", Value.string r.time.text) :: r.event.members).map Prod.fst).Nodup :=
    List.nodup_cons.mpr ⟨fun timed => by
      obtain ⟨m, member, same⟩ := List.mem_map.mp timed
      exact r.event.untimed_members m member same, r.event.distinct_members⟩
  have time := required?_known text? distinct (List.mem_cons_self ..)
    (List.mem_singleton_self "at")
  have rest : Syntax.object ((syntaxOfMembers (("at", Value.string r.time.text) :: r.event.members)).filter
      fun e => e.1 != some "at") = (Value.object r.event.members).toSyntax := by
    rw [syntaxOfMembers, List.filter_cons, if_neg (by simp), filter_other r.event.untimed_members]
    rfl
  -- An event is an object without objects in it, so it is never nested too deeply to be a value.
  obtain ⟨v, buffered⟩ := Option.isSome_iff_exists.mp (r.event.value?_members 126)
  refine Option.bind_eq_some_iff.mpr ⟨_, fields?_known ["at"] distinct, ?_⟩
  refine Option.bind_eq_some_iff.mpr ⟨_, time, ?_⟩
  rw [rest]
  refine Option.bind_eq_some_iff.mpr ⟨v, buffered, ?_⟩
  refine Option.bind_eq_some_iff.mpr ⟨_, r.event.ofObject?_members, ?_⟩
  exact Option.bind_eq_some_iff.mpr ⟨_, r.time.parse?_text, rfl⟩

/-- Every record is read back from its line. -/
theorem ofLine?_line (r : Record) : ofLine? r.line = some r := by
  rw [ofLine?, line, Syntax.parse?_compact, Option.bind_some, ofSyntax?_json]

theorem visible_line (r : Record) : ∀ c ∈ r.line.toList, 32 ≤ c.toNat := by
  rw [line, Value.compact, String.toList_ofList]
  exact visible_compact r.json

end Record

namespace Trail

/-- Lines that each have their break are split at these breaks, and nothing is behind the last. -/
theorem splitOn_lines {lines : List (List Char)} (unbroken : ∀ l ∈ lines, '\n' ∉ l) :
    (lines.flatMap fun l => l ++ ['\n']).splitOn '\n' = lines ++ [[]] := by
  induction lines with
  | nil => rfl
  | cons l lines ih =>
      obtain ⟨first, others⟩ := List.forall_mem_cons.mp unbroken
      rw [List.flatMap_cons, List.append_assoc, List.singleton_append,
        List.splitOn_append_cons_self_of_not_mem first, ih others, List.cons_append]

theorem splitOn_trail (t : Trail) :
    t.lines.toList.splitOn '\n' = (t.records.map fun r => r.line.toList) ++ [[]] := by
  have text : t.lines.toList = (t.records.map fun r => r.line.toList).flatMap fun l => l ++ ['\n'] := by
    simp only [lines, String.toList_join, List.flatMap_map, String.toList_append]
    rfl
  have unbroken : ∀ l ∈ t.records.map fun r => r.line.toList, '\n' ∉ l := by
    intro l member broken
    obtain ⟨r, -, rfl⟩ := List.mem_map.mp member
    exact absurd (r.visible_line _ broken) (by decide)
  rw [text, splitOn_lines unbroken]

/-- The text of a trail has one line for each record, in their order, and each line has its break.
No control character stands in a line, and it is read as its record again.  So is what any other
text of a record says, once it is written as a line. -/
theorem lines_replayed :
    (∀ t : Trail,
      t.lines.toList.splitOn '\n' = (t.records.map fun r => r.line.toList) ++ [[]] ∧
      (∀ r ∈ t.records, ∀ c ∈ r.line.toList, 32 ≤ c.toNat) ∧
      ∀ (k : Nat) (r : Record), t.records[k]? = some r →
        ∃ l, (t.lines.toList.splitOn '\n')[k]? = some l ∧ Record.ofLine? (String.ofList l) = some r) ∧
    ∀ (text : String) (r : Record), Record.ofLine? text = some r → Record.ofLine? r.line = some r := by
  refine ⟨fun t => ⟨t.splitOn_trail, fun r _ => r.visible_line, fun k r found => ?_⟩,
    fun _ r _ => r.ofLine?_line⟩
  have line : (t.records.map fun r => r.line.toList)[k]? = some r.line.toList := by
    rw [List.getElem?_map, found, Option.map_some]
  have inside := (List.getElem?_eq_some_iff.mp line).1
  refine ⟨r.line.toList, ?_, ?_⟩
  · rw [t.splitOn_trail, List.getElem?_append_left inside, line]
  · rw [String.ofList_toList, r.ofLine?_line]

/-- A leap second, and a text of breaks, marks, a control and characters of one to four bytes. -/
def broken : Record where
  time := ⟨⟨⟨2024, 2, 29⟩, 23, 59, 60, 5000000⟩, by decide⟩
  event := .stateChanged .inProgress .failed "a\r\n\"b\"\\\x00\u00e9\u2028😀"

/-- Another text for `broken`: the kind as a number, a state as an object, a member that is not
asked for, and the time an hour ahead. -/
def foreignLine : String :=
  "\x7b \"reason\" : \"a\\r\\n\\u0022b\\u0022\\\\\\u0000\\u00e9\\u2028\\ud83d\\ude00\",\n" ++
    "\"to\":\x7b\"failed\":\x7b\x7d\x7d,\"from\":\"in_progress\",\"run\":[1.5],\"event\":0," ++
    "\"at\":\"2024-3-1 0:59:60.005+01:00\"\x7d"

theorem lines_replayed_broken :
    Record.ofLine? foreignLine = some broken ∧ Record.ofLine? broken.line = some broken ∧
      (∃ l, ((⟨"s", .failed, none, [⟨.epoch, .stackMissing⟩, broken], none⟩ : Trail).lines.toList.splitOn
        '\n')[1]? = some l ∧ Record.ofLine? (String.ofList l) = some broken) := by
  have read : Record.ofLine? foreignLine = some broken := by decide +kernel
  exact ⟨read, lines_replayed.2 foreignLine broken read, (lines_replayed.1 _).2.2 1 broken rfl⟩

end Trail
end HeatStack.Lifecycle
