import HeatStack.Proofs.AtomReading

/-! # Bracketed sets with a closing parenthesis behind

The start of a bracketed set and its members other than sets.  Where the pattern ends behind one of
them, reading comes to the parenthesis only (`Reads true`): what follows takes it for a member. -/
set_option autoImplicit false
namespace HeatStack.Regex
open HeatStack.Text HeatStack.Unicode

variable {α : Type} {loose : Bool} {Q : State → Prop}

/-! ## Classes by name -/

/-- Behind the opening of a class, and whether it is negated. -/
def classBegin? : List Char → Option (Bool × List Char)
  | '[' :: ':' :: '^' :: r => some (true, r)
  | '[' :: ':' :: r => some (false, r)
  | _ => none

def nameEnd? : List Char → Option CharSet → Option (CharSet × List Char)
  | ':' :: ']' :: r, some set => some (set, r)
  | _, _ => none

def classEnd? (cs : List Char) : Option (CharSet × List Char) :=
  nameEnd? (cs.dropWhile (· != ':')) (asciiClass? (String.ofList (cs.takeWhile (· != ':'))))

def classText? (cs : List Char) : Option (Bool × CharSet × List Char) :=
  (classBegin? cs).bind fun begun => (classEnd? begun.2).map fun ended => (begun.1, ended)

/-- What becomes of the text of a class, if there is one. -/
def classOfText (s : State) : Option (Bool × CharSet × List Char) → Option (Option CharSet × State)
  | none => some (none, s)
  | some (negated, set, r) => (finish s.flags negated set).map fun set => (some set, { s with rest := r })

theorem asciiClassHere_eq (s : State) : asciiClassHere s = classOfText s (classText? s.rest) := by
  unfold asciiClassHere classText?
  dsimp only
  split
  · next plain =>
    have plain : classBegin? s.rest = none := plain
    rw [plain]
    rfl
  · next negated r begun =>
    have begun : classBegin? s.rest = some (negated, r) := begun
    rw [begun, Option.bind_some, classEnd?]
    split
    · next found named =>
      rw [found, named]
      rfl
    · next other =>
      rw [nameEnd?.eq_2 _ _ other]
      rfl

theorem classBegin?_eq_some {cs r : List Char} {negated : Bool}
    (begins : classBegin? cs = some (negated, r)) :
    cs = '[' :: ':' :: (if negated then '^' :: r else r) := by
  unfold classBegin? at begins
  split at begins <;> cases begins <;> rfl

theorem classEnd?_suffix {cs r : List Char} {set : CharSet} (ends : classEnd? cs = some (set, r)) :
    r <:+ cs := by
  unfold classEnd? nameEnd? at ends
  split at ends
  · next found _ =>
    cases ends
    have suffix := List.dropWhile_suffix (· != ':') (l := cs)
    rw [found] at suffix
    exact (List.suffix_append [':', ']'] r).trans suffix
  · cases ends

theorem classText?_suffix {cs r : List Char} {negated : Bool} {set : CharSet}
    (text : classText? cs = some (negated, set, r)) : ∃ d ds, cs = d :: ds ∧ r <:+ ds := by
  obtain ⟨⟨negated', r'⟩, begins, inner⟩ := Option.bind_eq_some_iff.mp text
  obtain ⟨ended, ends, same⟩ := Option.map_eq_some_iff.mp inner
  cases same
  refine ⟨_, _, classBegin?_eq_some begins, (classEnd?_suffix ends).trans ?_⟩
  refine (?_ : r' <:+ if negated' then '^' :: r' else r').trans (List.suffix_cons ..)
  split
  · exact List.suffix_cons ..
  · exact List.suffix_rfl

/-- Either there is no class here, or it has been taken. -/
theorem asciiClassHere_cases {s : State} {r : Option CharSet × State}
    (read : asciiClassHere s = some r) :
    r = (none, s) ∨ r.1.isSome = true ∧ ∃ c cs, s.rest = c :: cs ∧ r.2.rest <:+ cs := by
  rw [asciiClassHere_eq] at read
  cases text : classText? s.rest with
  | none =>
      rw [text] at read
      exact .inl (Option.some.inj read).symm
  | some found =>
      rw [text] at read
      obtain ⟨set, -, rfl⟩ := Option.map_eq_some_iff.mp read
      exact .inr ⟨rfl, classText?_suffix text⟩

theorem asciiClassHere_none {s s' : State} (read : asciiClassHere s = some (none, s')) : s' = s := by
  rcases asciiClassHere_cases read with same | ⟨found, -⟩
  · exact (Prod.mk.inj same).2
  · cases found

theorem asciiClassHere_some {set : CharSet} {s s' : State}
    (read : asciiClassHere s = some (some set, s')) : s'.rest.length < s.rest.length := by
  rcases asciiClassHere_cases read with same | ⟨-, c, cs, rest, suffix⟩
  · cases same
  · rw [rest]
    exact Nat.lt_succ_of_le suffix.length_le

def afterCircumflex : List Char → Bool × List Char
  | '^' :: r => (true, r)
  | r => (false, r)

theorem classBegin?_cons (a b : Char) (cs : List Char) : classBegin? (a :: b :: cs) =
    if a = '[' ∧ b = ':' then some (afterCircumflex cs) else none := by
  unfold classBegin?
  split
  · next same =>
    cases same
    rfl
  · next plain same =>
    cases same
    rw [if_pos ⟨rfl, rfl⟩, afterCircumflex.eq_2 cs plain]
  · next none =>
    rw [if_neg]
    rintro ⟨rfl, rfl⟩
    exact none _ rfl

theorem classBegin?_closed (cs r : List Char) : classBegin? (cs ++ ')' :: r) =
    (classBegin? cs).map fun begun => (begun.1, begun.2 ++ ')' :: r) := by
  match cs with
  | [] => rfl
  | [a] =>
      have short : classBegin? [a] = none := by
        unfold classBegin?
        split <;> simp_all
      rw [short, List.cons_append, List.nil_append, classBegin?_cons, if_neg fun both => ?_]
      · rfl
      · exact absurd both.2 (by decide)
  | [a, b] =>
      simp only [List.cons_append, List.nil_append, classBegin?_cons]
      split <;> rfl
  | a :: b :: c :: cs =>
      simp only [List.cons_append, classBegin?_cons]
      split
      · by_cases caret : c = '^'
        · subst caret
          rfl
        · simp [afterCircumflex, caret]
      · rfl

/-- What comes before a character is the same, or it runs into the parenthesis and beyond. -/
theorem span_closed {stop : Char} (other : ')' ≠ stop) (cs : List Char) :
    (∃ q, cs.dropWhile (· != stop) = stop :: q ∧ ∀ r,
        (cs ++ ')' :: r).dropWhile (· != stop) = stop :: (q ++ ')' :: r) ∧
        (cs ++ ')' :: r).takeWhile (· != stop) = cs.takeWhile (· != stop)) ∨
      cs.dropWhile (· != stop) = [] ∧ ∀ r,
        (cs ++ ')' :: r).dropWhile (· != stop) = r.dropWhile (· != stop) ∧
        ')' ∈ (cs ++ ')' :: r).takeWhile (· != stop) := by
  induction cs with
  | nil => exact .inr ⟨rfl, by simp [other]⟩
  | cons c cs ih =>
      by_cases stops : c = stop
      · subst stops
        exact .inl ⟨cs, by simp⟩
      · have goes : (c != stop) = true := bne_iff_ne.mpr stops
        simp only [List.cons_append, List.dropWhile_cons, List.takeWhile_cons, goes, if_true]
        rcases ih with ⟨q, own, wrapped⟩ | ⟨own, wrapped⟩
        · exact .inl ⟨q, own, fun r => ⟨(wrapped r).1, congrArg (c :: ·) (wrapped r).2⟩⟩
        · exact .inr ⟨own, fun r => ⟨(wrapped r).1, List.mem_cons_of_mem c (wrapped r).2⟩⟩

theorem plain_of_asciiClass? {name : String} {set : CharSet} (found : asciiClass? name = some set) :
    ')' ∉ name.toList := by
  unfold asciiClass? at found
  split at found <;> first | decide | cases found

theorem nameEnd?_closed (q r : List Char) (set? : Option CharSet) : nameEnd? (':' :: (q ++ ')' :: r)) set? =
    (nameEnd? (':' :: q) set?).map fun ended => (ended.1, ended.2 ++ ')' :: r) := by
  cases set? with
  | none => simp [nameEnd?]
  | some set =>
      cases q with
      | nil => rfl
      | cons d q =>
          by_cases bracket : d = ']'
          · subst bracket
            rfl
          · simp [nameEnd?, bracket]

theorem classEnd?_closed (cs r : List Char) : classEnd? (cs ++ ')' :: r) =
    (classEnd? cs).map fun ended => (ended.1, ended.2 ++ ')' :: r) := by
  unfold classEnd?
  have apart : ')' ≠ ':' := by decide
  rcases span_closed apart cs with ⟨q, own, wrapped⟩ | ⟨own, wrapped⟩
  · rw [own, (wrapped r).1, (wrapped r).2]
    exact nameEnd?_closed q r _
  · -- Without a colon the name runs into the parenthesis, and no class has one in its name.
    have unnamed : asciiClass? (String.ofList ((cs ++ ')' :: r).takeWhile (· != ':'))) = none := by
      refine Option.eq_none_iff_forall_ne_some.mpr fun set found => plain_of_asciiClass? found ?_
      rw [String.toList_ofList]
      exact (wrapped r).2
    rw [own, unnamed]
    simp [nameEnd?]

theorem classText?_closed (cs r : List Char) : classText? (cs ++ ')' :: r) =
    (classText? cs).map fun text => (text.1, text.2.1, text.2.2 ++ ')' :: r) := by
  rw [classText?, classText?, classBegin?_closed]
  cases classBegin? cs with
  | none => rfl
  | some begun =>
      change (classEnd? (begun.2 ++ ')' :: r)).map _ = _
      rw [classEnd?_closed, Option.bind_some]
      cases classEnd? begun.2 <;> rfl

theorem reads_asciiClass : Reads loose Q asciiClassHere := by
  refine ⟨fun s r read => ?_, fun s _ => .kept fun r => ?_⟩
  · rcases asciiClassHere_cases read with rfl | ⟨-, c, cs, rest, suffix⟩
    · exact List.suffix_rfl
    · exact rest ▸ suffix.trans (List.suffix_cons c cs)
  · rw [asciiClassHere_eq, asciiClassHere_eq, State.closed, classText?_closed]
    cases classText? s.rest with
    | none => rfl
    | some text =>
        obtain ⟨negated, set, more⟩ := text
        change Option.map _ (finish s.flags negated set) = Option.map _ (Option.map _ _)
        rw [Option.map_map]
        rfl

/-! ## Members and ranges -/

theorem head?_closed (cs r : List Char) : (cs ++ ')' :: r).head? = cs.head?.or (some ')') := by
  cases cs <;> rfl

/-- The first character behind blanks, or behind a number sign and blanks after it. -/
def headMarked : List Char → Option Char
  | '#' :: r => (r.dropWhile isBlank).head?
  | r => r.head?

theorem headMarked_closed (cs r : List Char) : headMarked (cs ++ ')' :: r) = (headMarked cs).or (some ')') := by
  cases cs with
  | nil => rfl
  | cons c cs =>
      by_cases number : c = '#'
      · subst number
        change ((cs ++ ')' :: r).dropWhile isBlank).head? = _
        rw [dropWhile_closed (by decide), head?_closed]
        rfl
      · simp [headMarked, number]

theorem peekBehind_eq (s : State) : peekBehind s = some (if s.flags.verbose
    then headMarked (s.rest.tail.dropWhile isBlank) else s.rest.tail.head?, s) := by
  unfold peekBehind
  dsimp only
  split
  · split
    · next found =>
      rw [found]
      rfl
    · next other => rw [headMarked.eq_2 _ other]
  · rfl

/-- The character behind the next one is the same, or it is the parenthesis. -/
theorem peekBehind_closed {s : State} (filled : Filled s) : ∃ b, peekBehind s = some (b, s) ∧
    ∀ r, peekBehind (s.closed r) = some (b.or (some ')'), s.closed r) := by
  obtain ⟨c, cs, rest⟩ := filled
  have tail : ∀ r, (s.closed r).rest.tail = s.rest.tail ++ ')' :: r := by
    intro r
    rw [State.closed, rest]
    rfl
  refine ⟨_, peekBehind_eq s, fun r => ?_⟩
  rw [peekBehind_eq, tail, dropWhile_closed (by decide), headMarked_closed, head?_closed]
  change some (if s.flags.verbose then _ else _, _) = _
  split <;> rfl

/-- A look for characters other than the parenthesis behind the next one. -/
theorem reads_peekBehind (test : Option Char → Bool) (same : test (some ')') = test none) {x y : Parse α}
    (filled : ∀ s, Q s → Filled s) (yes : Reads loose Q x) (no : Reads loose Q y) :
    Reads loose Q (peekBehind >>= fun behind => if test behind then x else y) := by
  refine ⟨.bind .peekBehind fun _ => .ite yes.takes no.takes, fun s here => ?_⟩
  obtain ⟨b, own, wrapped⟩ := peekBehind_closed (filled s here)
  have alike : test (b.or (some ')')) = test b := by
    cases b with
    | none => exact same
    | some c => rfl
  have run : (peekBehind >>= fun behind => if test behind then x else y) s =
      (if test b then x else y) s := by
    rw [bind_run, own]
    rfl
  have closed : ∀ r, (peekBehind >>= fun behind => if test behind then x else y) (s.closed r) =
      (if test b then x else y) (s.closed r) := by
    intro r
    rw [bind_run, wrapped, Option.bind_some, alike]
  simp only [run, closed]
  exact (Reads.ite yes no).near s here

/-- What follows the first character or class of a member. -/
def rangeFrom (f : Flags) (first : Atom) : Parse CharSet := do
  skipSpace
  let here ← peek
  if here.isNone then failure
  let behind ← peekBehind
  if here != some '-' || behind == some ']' || behind == some '-' then
    match first with
    | .literal c _ => (memberSet f c c : Option CharSet)
    | .set s => return s
    | .look _ => failure
  else
    bumpSpace
    let last ← setAtom
    let a ← (literalOf first : Option Char)
    let b ← (literalOf last : Option Char)
    if b < a then failure
    (memberSet f a b : Option CharSet)

theorem setRange_eq : setRange = (flags >>= fun f => setAtom >>= rangeFrom f) := rfl

theorem reads_rangeFrom (f : Flags) (first : Atom) : Reads true Q (rangeFrom f first) := by
  have single : ∀ {Q : State → Prop}, Reads true Q (match first with
      | .literal c _ => (memberSet f c c : Option CharSet)
      | .set s => return s
      | .look _ => failure : Parse CharSet) := by
    intro Q
    cases first with
    | literal c octet => exact .lift _
    | set s => exact .pure _
    | look l => exact .failure
  have ranged : ∀ {Q : State → Prop} (last : Atom), Reads true Q (do
      let a ← (literalOf first : Option Char)
      let b ← (literalOf last : Option Char)
      if b < a then failure
      (memberSet f a b : Option CharSet) : Parse CharSet) :=
    fun last => .bind (.lift _) fun a => .bind (.lift _) fun b => .barred (.lift _)
  refine .bind .skipSpace fun _ => .peek_some (fun here => ?_) fun c => ?_
  · refine .bind .peekBehind fun behind => .ite (single (Q := Q)).takes ?_
    exact .bind .bumpSpace fun _ => .bind (.of_advances setAtom_advances) fun last =>
      (ranged (Q := Q) last).takes
  · refine reads_peekBehind (fun behind => some c != some '-' || behind == some ']' ||
      behind == some '-') rfl At.filled single ?_
    refine .bind (.bumpSpace At.filled) fun _ => ?_
    refine nearly_setAtom.reads_bind (fun last => ranged last) fun last u r y look _ read => ?_
    obtain ⟨l, rfl⟩ := look
    obtain ⟨a, s', -, read⟩ := bind_eq_some.mp read
    cases read

/-- A look is no member of a set. -/
theorem rangeFrom_look (f : Flags) (l : Look) (s : State) : rangeFrom f (.look l) s = none := by
  refine Option.eq_none_iff_forall_ne_some.mpr fun y read => ?_
  obtain ⟨_, s₁, -, read⟩ := bind_eq_some.mp read
  obtain ⟨here, s₂, -, read⟩ := bind_eq_some.mp read
  dsimp only at read
  split at read
  · cases read
  · obtain ⟨behind, s₃, -, read⟩ := bind_eq_some.mp read
    split at read
    · cases read
    · obtain ⟨_, s₄, -, read⟩ := bind_eq_some.mp read
      obtain ⟨last, s₅, -, read⟩ := bind_eq_some.mp read
      cases read

/-- Behind a member the reader has to see a character, which it leaves. -/
theorem reads_setRange : Reads true Q setRange := by
  rw [setRange_eq]
  refine .bind .flags fun f => ?_
  refine nearly_setAtom.reads_bind (fun first => reads_rangeFrom f first) fun first u r y look _ read => ?_
  obtain ⟨l, rfl⟩ := look
  cases (rangeFrom_look f l _).symm.trans read

theorem setRange_advances (s : State) : Advances setRange s :=
  Takes.flags.advances fun f s' _ => (setAtom_advances s').bind fun first =>
    (reads_rangeFrom (Q := fun _ => True) f first).takes

/-! ## The start of a set -/

/-- What follows the circumflex, if there is one. -/
def openingFrom (negated : Bool) : Parse (Bool × Union) := do
  let u ← dashLoop.whole .empty
  let c? ← peek
  if u.count = 0 && c? == some ']' then
    bumpSpace
    if (← peek).isNone then failure
    return (negated, u.add (CharSet.single 93) 0)
  if (← peek).isNone then failure
  return (negated, u)

theorem opening_eq : opening = (skipSpace >>= fun _ => peek >>= fun c? =>
    if c? == some '^' then bumpSpace >>= fun _ => openingFrom true else openingFrom false) := by
  refine bind_congr fun _ => bind_congr fun c? => ?_
  unfold openingFrom
  rw [← dashLoop_here]
  simp only [bind_assoc]
  cases c? == some '^' <;> rfl

theorem reads_openingFrom (negated : Bool) : Reads true Q (openingFrom negated) := by
  have ended : ∀ {Q : State → Prop} (opened : Bool × Union), Reads true Q (do
      if (← peek).isNone then failure
      return opened : Parse (Bool × Union)) :=
    fun opened => .peek_some (fun _ => .pure _) fun c => .pure _
  refine .bind (reads_dashes _) fun u => ?_
  have unlike : ∀ {c? : Option Char}, c? ≠ some ']' → ¬ (decide (u.count = 0) && c? == some ']') = true :=
    fun other both => other (beq_iff_eq.mp (Bool.and_eq_true_iff.mp both).2)
  refine .peek_same ?_ ?_ fun c => ?_
  · rw [if_neg (unlike (by decide)), if_neg (unlike (by decide))]
  · rw [if_neg (unlike (by decide))]
    exact ended _
  · exact .ite (.bind (.bumpSpace At.filled) fun _ => ended _) (ended _)

/-- Where the pattern ends behind the opening bracket, the parenthesis stands for itself. -/
theorem reads_opening : Reads true Q opening := by
  rw [opening_eq]
  refine .bind .skipSpace fun _ => .peek_ite (by decide) ?_ (reads_openingFrom _)
  exact .bind (.bumpSpace At.filled) fun _ => reads_openingFrom _

end HeatStack.Regex
