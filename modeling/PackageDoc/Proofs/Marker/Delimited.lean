import PackageDoc.Proofs.Marker.Default

/-! # Regions between two texts

A pattern of the form `(?s)(opening)(.*?)(closing)`, where opening and closing stand for themselves,
finds the first place where the opening text stands in front of a closing one, and of the closing texts
behind it the first. -/
set_option autoImplicit false

namespace PackageDoc.Regex.Program

variable {program : Program} {position : Nat} {text rest : List Char} {slots : Slots}
  {result : Option Slots}

/-! ## Instructions -/

/-- A lazy repetition of one set. -/
structure Lazy (program : Program) (set : CharSet) (instr exit body : Nat) : Prop where
  choice : program.code[instr]? = some (.fork exit body)
  round : program.code[body]? = some (.take set instr)

/-- The first group is a text.  The second one begins behind it. -/
def Opens (program : Program) (opening : List Char) (exit : Nat) : Prop :=
  ∃ first word stop second, program.code[program.start]? = some (.note 0 first) ∧
    program.code[first]? = some (.note 2 word) ∧ program.behind? word opening = some stop ∧
    program.code[stop]? = some (.note 3 second) ∧ program.code[second]? = some (.note 4 exit)

/-- The second group ends.  The third one is a text, and the match ends with it. -/
def Closes (program : Program) (closing : List Char) (instr : Nat) : Prop :=
  ∃ third word stop whole last, program.code[instr]? = some (.note 5 third) ∧
    program.code[third]? = some (.note 6 word) ∧ program.behind? word closing = some stop ∧
    program.code[stop]? = some (.note 7 whole) ∧ program.code[whole]? = some (.note 1 last) ∧
    program.code[last]? = some .accept

/-- The program of a text, the fewest characters possible, and another text, each a group. -/
structure Delimits (program : Program) (opening closing : List Char) : Prop where
  groups : program.groups = 3
  descends : program.Descends
  reads : ∃ choice exit body, program.Opens opening choice ∧
    program.Lazy anyRanges choice exit body ∧ program.Closes closing exit

theorem gives_opening {opening : List Char} {choice : Nat} (opens : program.Opens opening choice)
    (gives : program.Gives (position + opening.length) rest choice
      ((((slots.set 0 (some position)).set 2 (some position)).set 3
        (some (position + opening.length))).set 4 (some (position + opening.length))) result) :
    program.Gives position (opening ++ rest) program.start slots result := by
  obtain ⟨_, _, _, _, whole, first, word, stop, second⟩ := opens
  apply gives_note whole
  apply gives_note first
  apply gives_word opening _ _ word
  apply gives_note stop
  exact gives_note second gives

theorem gives_no_opening {opening : List Char} {choice : Nat}
    (opens : program.Opens opening choice) (other : ¬ opening <+: text) :
    program.Gives position text program.start slots none := by
  obtain ⟨_, _, _, _, whole, first, word, _⟩ := opens
  apply gives_note whole
  apply gives_note first
  exact gives_other_word opening _ _ _ word other

/-- The slots behind the last group. -/
def ended (slots : Slots) (start stop : Nat) : Slots :=
  (((slots.set 5 (some start)).set 6 (some start)).set 7 (some stop)).set 1 (some stop)

theorem gives_closing {closing : List Char} {exit : Nat} (closes : program.Closes closing exit) :
    program.Gives position (closing ++ rest) exit slots
      (some (ended slots position (position + closing.length))) := by
  obtain ⟨_, _, _, _, _, second, third, word, stop, whole, accepts⟩ := closes
  apply gives_note second
  apply gives_note third
  apply gives_word closing _ _ word
  apply gives_note stop
  apply gives_note whole
  exact fun previous => .accept accepts

theorem gives_no_closing {closing : List Char} {exit : Nat} (closes : program.Closes closing exit)
    (other : ¬ closing <+: text) : program.Gives position text exit slots none := by
  obtain ⟨_, _, _, _, _, second, third, word, _⟩ := closes
  apply gives_note second
  apply gives_note third
  exact gives_other_word closing _ _ _ word other

/-! ## The region -/

section Region
variable {closing : List Char} {choice exit body : Nat}
  (anything : program.Lazy anyRanges choice exit body) (closes : program.Closes closing exit)
include anything closes

/-- A lazy repetition stops at the first closing text. -/
theorem gives_shortest : ∀ (inner tail : List Char) (position : Nat),
      (∀ front, front ++ closing <+: inner ++ (closing ++ tail) → inner.length ≤ front.length) →
      program.Gives position (inner ++ (closing ++ tail)) choice slots
        (some (ended slots (position + inner.length)
          (position + inner.length + closing.length))) := by
  intro inner tail
  induction inner with
  | nil =>
    intro position _ previous
    exact .preferred anything.choice (gives_closing closes previous)
  | cons c inner ih =>
    intro position shortest
    have length : position + (c :: inner).length = position + 1 + inner.length := by
      rw [List.length_cons]
      omega
    have later := ih (position + 1) fun front before =>
      Nat.le_of_succ_le_succ (shortest (c :: front) (List.cons_prefix_cons.2 ⟨rfl, before⟩))
    have other : ¬ closing <+: c :: inner ++ (closing ++ tail) := fun begins =>
      absurd (shortest [] begins) (Nat.not_succ_le_zero _)
    rw [length]
    exact fun previous => .other anything.choice (gives_no_closing closes other previous)
      (.take anything.round (Marker.contains_anyRanges c) (later _))

theorem gives_never : ∀ (text : List Char) (position : Nat),
      ¬ closing <:+: text → program.Gives position text choice slots none := by
  intro text
  induction text with
  | nil =>
    intro position absent previous
    exact .other anything.choice
      (gives_no_closing closes (fun begins => absent begins.isInfix) previous)
      (.stop anything.round)
  | cons c text ih =>
    intro position absent previous
    refine .other anything.choice
      (gives_no_closing closes (fun begins => absent begins.isInfix) previous)
      (.take anything.round (Marker.contains_anyRanges c) (ih (position + 1) ?_ _))
    exact fun inside => absent (inside.trans (List.suffix_cons c text).isInfix)

end Region
end PackageDoc.Regex.Program

namespace PackageDoc.Marker
open PackageDoc.Regex

variable {program : Program} {opening closing head inner tail : List Char}

/-- The first opening text with a closing text behind it, what stands in front of it, and what follows
up to the first closing text. -/
structure Delimited (opening closing head inner tail : List Char) : Prop where
  first : ∀ front rest, head ++ (opening ++ (inner ++ (closing ++ tail))) = front ++ (opening ++ rest) →
    closing <:+: rest → head.length ≤ front.length
  shortest : ∀ front, front ++ closing <+: inner ++ (closing ++ tail) → inner.length ≤ front.length

theorem matchAt_delimited (delimits : program.Delimits opening closing) (position : Nat)
    (previous : Option Char)
    (shortest : ∀ front, front ++ closing <+: inner ++ (closing ++ tail) →
      inner.length ≤ front.length) :
    ∃ slots, program.matchAt position previous (opening ++ (inner ++ (closing ++ tail))) =
        some slots ∧ Groups slots (position + opening.length)
          (position + opening.length + inner.length) := by
  obtain ⟨choice, exit, body, opens, anything, closes⟩ := delimits.reads
  refine ⟨_, Program.matchAt_of_tries delimits.descends (Program.gives_opening opens
    (Program.gives_shortest anything closes inner tail _ shortest) previous), ?_⟩
  have none : program.noSlots = List.replicate 8 none := by
    rw [Program.noSlots, delimits.groups]
  rw [none]
  exact ⟨⟨_, rfl⟩, rfl, ⟨_, rfl⟩⟩

theorem matchAt_undelimited (delimits : program.Delimits opening closing) {text : List Char}
    (position : Nat) (previous : Option Char)
    (absent : ∀ rest, text = opening ++ rest → ¬ closing <:+: rest) :
    program.matchAt position previous text = none := by
  obtain ⟨choice, exit, body, opens, anything, closes⟩ := delimits.reads
  apply Program.matchAt_of_tries delimits.descends
  by_cases begins : opening <+: text
  · obtain ⟨rest, rfl⟩ := begins
    apply Program.gives_opening opens
    exact Program.gives_never anything closes rest _ (absent rest rfl)
  · exact Program.gives_no_opening opens begins previous

/-! ## The search -/

theorem search_delimited (delimits : program.Delimits opening closing) :
    ∀ (head : List Char) (position : Nat) (previous : Option Char),
      Delimited opening closing head inner tail →
      ∃ slots, program.searchFrom position previous
          (head ++ (opening ++ (inner ++ (closing ++ tail)))) = some slots ∧
        Groups slots (position + head.length + opening.length)
          (position + head.length + opening.length + inner.length) := by
  intro head
  induction head with
  | nil =>
    intro position previous delimited
    obtain ⟨slots, found, groups⟩ :=
      matchAt_delimited delimits position previous delimited.shortest
    exact ⟨slots, Program.searchFrom_of_match found, groups⟩
  | cons c head ih =>
    intro position previous delimited
    have unmatched : program.matchAt position previous
        (c :: (head ++ (opening ++ (inner ++ (closing ++ tail))))) = none := by
      apply matchAt_undelimited delimits
      intro rest whole inside
      exact absurd (delimited.first [] rest whole inside) (Nat.not_succ_le_zero _)
    obtain ⟨slots, found, groups⟩ := ih (position + 1) (some c)
      ⟨fun front rest whole inside => Nat.le_of_succ_le_succ
        (delimited.first (c :: front) rest (congrArg (c :: ·) whole) inside), delimited.shortest⟩
    have length : position + 1 + head.length = position + (c :: head).length := by
      rw [List.length_cons]
      omega
    rw [length] at groups
    exact ⟨slots, (Program.searchFrom_cons unmatched).trans found, groups⟩

theorem search_undelimited (delimits : program.Delimits opening closing) :
    ∀ (text : List Char) (position : Nat) (previous : Option Char),
      (∀ front rest, text = front ++ (opening ++ rest) → ¬ closing <:+: rest) →
      program.searchFrom position previous text = none := by
  intro text
  induction text with
  | nil =>
    intro position previous absent
    exact matchAt_undelimited delimits position previous fun rest whole => absent [] rest whole
  | cons c text ih =>
    intro position previous absent
    rw [Program.searchFrom_cons (matchAt_undelimited delimits position previous (absent []))]
    exact ih _ _ fun front rest whole => absent (c :: front) rest (congrArg (c :: ·) whole)

/-! ## Texts with a region -/

theorem exists_shortest : ∀ {rest : List Char}, closing <:+: rest →
    ∃ inner tail, rest = inner ++ (closing ++ tail) ∧
      ∀ front, front ++ closing <+: rest → inner.length ≤ front.length := by
  intro rest
  induction rest with
  | nil =>
    intro inside
    have none := List.infix_nil.1 inside
    exact ⟨[], [], by rw [none]; rfl, fun _ _ => Nat.zero_le _⟩
  | cons c rest ih =>
    intro inside
    by_cases begins : closing <+: c :: rest
    · obtain ⟨tail, whole⟩ := begins
      exact ⟨[], tail, whole.symm, fun _ _ => Nat.zero_le _⟩
    · have later : closing <:+: rest := (List.infix_cons_iff.1 inside).resolve_left begins
      obtain ⟨inner, tail, whole, shortest⟩ := ih later
      refine ⟨c :: inner, tail, congrArg (c :: ·) whole, ?_⟩
      intro front before
      cases front with
      | nil => exact absurd before begins
      | cons d front => exact Nat.succ_le_succ (shortest front (List.cons_prefix_cons.1 before).2)

theorem exists_delimited : ∀ {text : List Char},
    (∃ front rest, text = front ++ (opening ++ rest) ∧ closing <:+: rest) →
    ∃ head inner tail, text = head ++ (opening ++ (inner ++ (closing ++ tail))) ∧
      Delimited opening closing head inner tail := by
  intro text
  induction text with
  | nil =>
    intro found
    obtain ⟨front, rest, whole, inside⟩ := found
    obtain ⟨inner, tail, rfl, shortest⟩ := exists_shortest inside
    refine ⟨front, inner, tail, whole, ?_, shortest⟩
    intro other _ _ _
    rw [(List.append_eq_nil_iff.1 whole.symm).1]
    exact Nat.zero_le _
  | cons c text ih =>
    intro found
    by_cases here : ∃ rest, c :: text = opening ++ rest ∧ closing <:+: rest
    · obtain ⟨rest, whole, inside⟩ := here
      obtain ⟨inner, tail, rfl, shortest⟩ := exists_shortest inside
      exact ⟨[], inner, tail, whole, fun _ _ _ _ => Nat.zero_le _, shortest⟩
    · have later : ∃ front rest, text = front ++ (opening ++ rest) ∧ closing <:+: rest := by
        obtain ⟨front, rest, whole, inside⟩ := found
        cases front with
        | nil => exact absurd ⟨rest, whole, inside⟩ here
        | cons d front => exact ⟨front, rest, (List.cons.inj whole).2, inside⟩
      obtain ⟨head, inner, tail, rfl, delimited⟩ := ih later
      refine ⟨c :: head, inner, tail, rfl, ?_, delimited.shortest⟩
      intro front rest whole inside
      cases front with
      | nil => exact absurd ⟨rest, whole, inside⟩ here
      | cons d front =>
        exact Nat.succ_le_succ (delimited.first front rest (List.cons.inj whole).2 inside)

/-! ## Patterns -/

variable {pattern : MarkerPattern}

theorem region?_delimited (delimits : pattern.program.Delimits opening closing)
    (delimited : Delimited opening closing head inner tail) :
    ∃ first third, pattern.region? (head ++ (opening ++ (inner ++ (closing ++ tail)))) =
      some (first, ⟨(head ++ opening).length, (head ++ opening).length + inner.length⟩, third) := by
  obtain ⟨slots, found, groups⟩ := search_delimited delimits head 0 none delimited
  rw [Nat.zero_add, ← List.length_append] at groups
  exact groups.region? found

theorem exists_delimited_of_region? (delimits : pattern.program.Delimits opening closing)
    {text : List Char} {spans : Span × Span × Span}
    (found : pattern.region? text = some spans) :
    ∃ head inner tail, text = head ++ (opening ++ (inner ++ (closing ++ tail))) ∧
      Delimited opening closing head inner tail := by
  by_cases here : ∃ front rest, text = front ++ (opening ++ rest) ∧ closing <:+: rest
  · exact exists_delimited here
  · have absent : ∀ front rest, text = front ++ (opening ++ rest) → ¬ closing <:+: rest :=
      fun front rest whole inside => here ⟨front, rest, whole, inside⟩
    have none := search_undelimited delimits text 0 none absent
    unfold MarkerPattern.region? Program.search at found
    rw [none] at found
    cases found

end PackageDoc.Marker
