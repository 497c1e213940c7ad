import PackageDoc.Proofs.Marker.Basic
import PackageDoc.Proofs.Marker.Region
import PackageDoc.Proofs.Regex.Segment

/-! # The default marker pattern

What the program of the default pattern gives, instruction by instruction from the last one to the
first: the closing marker with its white space, the body, the opening marker with its white space. -/
set_option autoImplicit false

namespace PackageDoc.Marker
open PackageDoc.Regex PackageDoc.Unicode

variable {tag mark text lead rest : List Char} {position : Nat} {slots : Slots}
  {result : Option Slots}

theorem not_begins_of_blank {c : Char} (blank : isWhiteSpace c = true) (text : List Char) :
    ¬ Begins tag (c :: text) := by
  intro begins
  obtain ⟨rest, slashes⟩ := begins.slashes
  rw [(List.cons.inj slashes).1] at blank
  exact absurd blank (by decide)

theorem not_tag_of_blank (isTag : IsTag tag) {c : Char} (blank : isWhiteSpace c = true)
    (text : List Char) : ¬ tag <+: c :: text := by
  rintro ⟨more, whole⟩
  have head : (tag ++ more).head? = some c := by rw [whole]; rfl
  rw [List.head?_append, isTag.first] at head
  cases head
  exact absurd blank (by decide)

/-! ## White space -/

section Spaces
variable {program : Program} {instr exit body : Nat}
  (star : program.Star whiteSpaceRanges instr exit body)
include star

/-- The repetition takes the white space in front of a text. -/
theorem gives_spaces (blank : IsBlank lead) (ends : ∀ c ∈ rest.head?, isWhiteSpace c = false)
    (early : result = none → ∀ (position : Nat) (c : Char) (more : List Char),
      IsBlank (c :: more) → program.Gives position (c :: (more ++ rest)) exit slots none)
    (gives : program.Gives (position + lead.length) rest exit slots result) :
    program.Gives position (lead ++ rest) instr slots result := by
  refine Program.gives_star star ends ?_ lead position blank gives
  intro failed later more some blank
  obtain ⟨c, more, rfl⟩ := List.exists_cons_of_ne_nil some
  exact early failed later c more blank

theorem gives_all_spaces (text : List Char)
    (early : result = none → ∀ (position : Nat) (c : Char) (more : List Char),
      IsBlank (c :: more) →
        program.Gives position (c :: (more ++ text.dropWhile isWhiteSpace)) exit slots none)
    (gives : program.Gives (position + (text.takeWhile isWhiteSpace).length)
      (text.dropWhile isWhiteSpace) exit slots result) :
    program.Gives position text instr slots result := by
  have blank : IsBlank (text.takeWhile isWhiteSpace) := fun c => List.mem_takeWhile_imp
  have whole := gives_spaces star blank head_dropWhile early gives
  rwa [List.takeWhile_append_dropWhile] at whole

end Spaces

/-! ## Markers -/

section Markers
variable {program : Program} {instr exit : Nat}

/-- The instructions of a marker. -/
def Reads (program : Program) (tag : List Char) (instr exit : Nat) : Prop :=
  ∃ spaced word body, program.behind? instr ['/', '/'] = some spaced ∧
    program.Star whiteSpaceRanges spaced word body ∧ program.behind? word tag = some exit

theorem gives_marker (reads : Reads program tag instr exit) (isTag : IsTag tag)
    (isMarker : IsMarker tag mark)
    (gives : program.Gives (position + mark.length) rest exit slots result) :
    program.Gives position (mark ++ rest) instr slots result := by
  obtain ⟨spaced, word, body, slashes, star, spells⟩ := reads
  obtain ⟨gap, blank, rfl⟩ := isMarker
  have split : '/' :: '/' :: (gap ++ tag) ++ rest = ['/', '/'] ++ (gap ++ (tag ++ rest)) := by simp
  have length : position + ('/' :: '/' :: (gap ++ tag)).length =
      position + ['/', '/'].length + gap.length + tag.length := by
    simp only [List.length_cons, List.length_append, List.length_nil]
    omega
  rw [split]
  rw [length] at gives
  refine Program.gives_word _ _ _ slashes (gives_spaces star blank ?_ ?_
    (Program.gives_word _ _ _ spells gives))
  · intro c head
    rw [List.head?_append, isTag.first] at head
    cases head
    decide
  · intro _ later c more blank
    exact Program.gives_other_word _ _ _ _ spells
      (not_tag_of_blank isTag (blank c List.mem_cons_self) _)

theorem gives_no_marker (reads : Reads program tag instr exit) (isTag : IsTag tag)
    (other : ¬ Begins tag text) : program.Gives position text instr slots none := by
  obtain ⟨spaced, word, body, slashes, star, spells⟩ := reads
  by_cases begins : ['/', '/'] <+: text
  · obtain ⟨behind, rfl⟩ := begins
    refine Program.gives_word _ _ _ slashes (gives_all_spaces star behind ?_ ?_)
    · intro _ later c more blank
      exact Program.gives_other_word _ _ _ _ spells
        (not_tag_of_blank isTag (blank c List.mem_cons_self) _)
    · refine Program.gives_other_word _ _ _ _ spells ?_
      rintro ⟨more, tagged⟩
      refine other ⟨_, ⟨behind.takeWhile isWhiteSpace, fun c => List.mem_takeWhile_imp, rfl⟩,
        more, ?_⟩
      show '/' :: '/' :: (behind.takeWhile isWhiteSpace ++ tag ++ more) = '/' :: '/' :: behind
      rw [List.append_assoc, tagged, List.takeWhile_append_dropWhile]
  · exact Program.gives_other_word _ _ _ _ slashes begins

variable {enter body : Nat} (star : program.Star whiteSpaceRanges enter instr body)
include star

theorem gives_spaced_marker (reads : Reads program tag instr exit) (isTag : IsTag tag)
    (blank : IsBlank lead) (isMarker : IsMarker tag mark)
    (gives : program.Gives (position + lead.length + mark.length) rest exit slots result) :
    program.Gives position (lead ++ (mark ++ rest)) enter slots result := by
  refine gives_spaces star blank ?_ ?_ (gives_marker reads isTag isMarker gives)
  · intro c head
    rw [List.head?_append, isMarker.head?] at head
    cases head
    decide
  · intro _ later c more blank
    exact gives_no_marker reads isTag (not_begins_of_blank (blank c List.mem_cons_self) _)

theorem gives_no_spaced_marker (reads : Reads program tag instr exit) (isTag : IsTag tag)
    (other : ¬ BeginsSpaced tag text) : program.Gives position text enter slots none := by
  refine gives_all_spaces star text ?_ (gives_no_marker reads isTag ?_)
  · intro _ later c more blank
    exact gives_no_marker reads isTag (not_begins_of_blank (blank c List.mem_cons_self) _)
  · intro begins
    exact other ⟨_, _, fun c => List.mem_takeWhile_imp,
      (List.takeWhile_append_dropWhile (p := isWhiteSpace)).symm, begins⟩

end Markers

/-! ## The program -/

def letter (c : Char) (next : Nat) : Instr := .take (CharSet.single c) next

def space (next : Nat) : Instr := .take whiteSpaceRanges next

def code : List Instr :=
  [.accept, .note 1 0, .note 7 1,
    .fork 4 2, space 3,
    letter '>' 3, letter 'e' 5, letter 'c' 6, letter 'a' 7, letter 'l' 8, letter 'p' 9,
    letter 'e' 10, letter 'r' 11, letter '/' 12, letter '<' 13,
    .fork 16 14, space 15, letter '/' 15, letter '/' 17,
    .fork 20 18, space 19, .note 6 19, .note 5 21,
    .fork 22 24, .take anyRanges 23, .note 4 23, .note 3 25,
    .fork 28 26, space 27,
    letter '>' 27, letter 'e' 29, letter 'c' 30, letter 'a' 31, letter 'l' 32, letter 'p' 33,
    letter 'e' 34, letter 'r' 35, letter '<' 36,
    .fork 39 37, space 38, letter '/' 38, letter '/' 40,
    .fork 43 41, space 42, .note 2 42, .note 0 44]

def program : Program := ⟨code.toArray, 45, 3⟩

theorem default_program : MarkerPattern.default.program = program := rfl

theorem descends : program.Descends := by decide

theorem close_reads : Reads program closeTag 18 3 := ⟨15, 14, 16, rfl, ⟨rfl, rfl⟩, rfl⟩

theorem open_reads : Reads program openTag 41 27 := ⟨38, 37, 39, rfl, ⟨rfl, rfl⟩, rfl⟩

theorem star_behind_close : program.Star whiteSpaceRanges 3 2 4 := ⟨rfl, rfl⟩

theorem star_before_close : program.Star whiteSpaceRanges 19 18 20 := ⟨rfl, rfl⟩

theorem star_behind_open : program.Star whiteSpaceRanges 27 26 28 := ⟨rfl, rfl⟩

theorem star_before_open : program.Star whiteSpaceRanges 42 41 43 := ⟨rfl, rfl⟩

theorem choice : program.code[23]? = some (.fork 22 24) := rfl

theorem anything : program.code[24]? = some (.take anyRanges 23) := rfl

/-! The places where groups begin and end. -/

theorem match_start : program.code[45]? = some (.note 0 44) := rfl

theorem match_stop : program.code[1]? = some (.note 1 0) := rfl

theorem first_start : program.code[44]? = some (.note 2 42) := rfl

theorem first_stop : program.code[26]? = some (.note 3 25) := rfl

theorem second_start : program.code[25]? = some (.note 4 23) := rfl

theorem second_stop : program.code[22]? = some (.note 5 21) := rfl

theorem third_start : program.code[21]? = some (.note 6 19) := rfl

theorem third_stop : program.code[2]? = some (.note 7 1) := rfl

theorem contains_anyRanges (c : Char) : CharSet.contains anyRanges c = true := by
  have bound : c.toNat ≤ CharSet.lastCode := by
    have valid : c.toNat.isValidChar := c.valid
    unfold Nat.isValidChar at valid
    unfold CharSet.lastCode
    omega
  simp [CharSet.contains, anyRanges, covers, CodeRange.contains, bound]

/-! ## The third group and what follows -/

/-- The slots behind the third group. -/
def closed (slots : Slots) (start stop : Nat) : Slots :=
  ((slots.set 6 (some start)).set 7 (some stop)).set 1 (some stop)

theorem gives_close (begins : BeginsSpaced closeTag text) (position : Nat) :
    ∃ stop, ∀ slots, program.Gives position text 21 slots (some (closed slots position stop)) := by
  obtain ⟨lead, _, blank, rfl, mark, isMarker, behind, rfl⟩ := begins
  refine ⟨position + lead.length + mark.length + (behind.takeWhile isWhiteSpace).length, ?_⟩
  intro slots
  have ends : program.Gives (position + lead.length + mark.length) behind 3
      (slots.set 6 (some position)) (some (closed slots position
        (position + lead.length + mark.length + (behind.takeWhile isWhiteSpace).length))) := by
    refine gives_all_spaces star_behind_close behind (fun failed => nomatch failed) ?_
    exact Program.gives_note third_stop (Program.gives_note match_stop fun _ => .accept rfl)
  exact Program.gives_note third_start
    (gives_spaced_marker star_before_close close_reads isTag_closeTag blank isMarker ends)

theorem gives_no_close (other : ¬ BeginsSpaced closeTag text) :
    program.Gives position text 21 slots none :=
  Program.gives_note third_start (gives_no_spaced_marker star_before_close close_reads isTag_closeTag other)

/-! ## The body -/

theorem gives_body {tail : List Char} (closing : BeginsSpaced closeTag tail) : ∀ (core : List Char)
    (position : Nat), (∀ front behind, core = front ++ behind → behind ≠ [] →
      ¬ BeginsSpaced closeTag (behind ++ tail)) →
    ∃ stop, ∀ slots, program.Gives position (core ++ tail) 23 slots (some (closed
      (slots.set 5 (some (position + core.length))) (position + core.length) stop)) := by
  intro core
  induction core with
  | nil =>
    intro position _
    obtain ⟨stop, gives⟩ := gives_close closing position
    exact ⟨stop, fun slots previous => .preferred choice (Program.gives_note second_stop (gives _) previous)⟩
  | cons c core ih =>
    intro position between
    obtain ⟨stop, gives⟩ := ih (position + 1)
      fun front behind split => between (c :: front) behind (congrArg (c :: ·) split)
    have length : position + 1 + core.length = position + (c :: core).length := by
      rw [List.length_cons]
      omega
    rw [length] at gives
    refine ⟨stop, fun slots previous => .other choice ?_
      (.take anything (contains_anyRanges c) (gives slots _))⟩
    exact Program.gives_note second_stop (gives_no_close (between [] _ rfl (List.cons_ne_nil _ _))) previous

theorem not_beginsSpaced (lacks : Lacks tag text) : ¬ BeginsSpaced tag text := by
  rintro ⟨lead, rest, _, rfl, mark, isMarker, begins⟩
  exact lacks.of_suffix mark isMarker begins.isInfix

theorem gives_no_body : ∀ (text : List Char) (position : Nat) (slots : Slots),
    Lacks closeTag text → program.Gives position text 23 slots none := by
  intro text
  induction text with
  | nil =>
    intro position slots lacks previous
    exact .other choice (Program.gives_note second_stop (gives_no_close (not_beginsSpaced lacks)) previous)
      (.stop anything)
  | cons c text ih =>
    intro position slots lacks previous
    exact .other choice (Program.gives_note second_stop (gives_no_close (not_beginsSpaced lacks)) previous)
      (.take anything (contains_anyRanges c) (ih (position + 1) slots lacks.tail _))

/-! ## The first group -/

/-- The three groups of a match, with the place of the second one. -/
structure Groups (slots : Slots) (start stop : Nat) : Prop where
  first : ∃ span, slots.group? 1 = some span
  second : slots.group? 2 = some ⟨start, stop⟩
  third : ∃ span, slots.group? 3 = some span

theorem Groups.region? {pattern : MarkerPattern} {start stop : Nat} (groups : Groups slots start stop)
    (found : pattern.program.search text = some slots) :
    ∃ first third, pattern.region? text = some (first, ⟨start, stop⟩, third) := by
  obtain ⟨⟨first, one⟩, two, ⟨third, three⟩⟩ := groups
  refine ⟨first, third, ?_⟩
  simp only [MarkerPattern.region?, found, one, two, three, bind, Option.bind, pure]

theorem gives_region {gap core tail : List Char} (blank : IsBlank lead)
    (opening : IsMarker openTag mark) (spaces : IsBlank gap)
    (ends : ∀ c ∈ (core ++ tail).head?, isWhiteSpace c = false)
    (closing : BeginsSpaced closeTag tail)
    (between : ∀ front behind, core = front ++ behind → behind ≠ [] →
      ¬ BeginsSpaced closeTag (behind ++ tail)) (position : Nat) :
    ∃ slots, program.Gives position (lead ++ (mark ++ (gap ++ (core ++ tail)))) 45 program.noSlots
        (some slots) ∧
      Groups slots (position + lead.length + mark.length + gap.length)
        (position + lead.length + mark.length + gap.length + core.length) := by
  obtain ⟨stop, gives⟩ := gives_body closing core
    (position + lead.length + mark.length + gap.length) between
  refine ⟨_, Program.gives_note match_start (Program.gives_note first_start (gives_spaced_marker
    star_before_open open_reads isTag_openTag blank opening (gives_spaces star_behind_open spaces
    ends (fun failed => nomatch failed) (Program.gives_note first_stop (Program.gives_note second_start
    (gives _)))))), ?_⟩
  exact ⟨⟨_, rfl⟩, rfl, ⟨_, rfl⟩⟩

theorem gives_no_region (other : ∀ lead mark rest, IsBlank lead → IsMarker openTag mark →
      text = lead ++ (mark ++ rest) → Lacks closeTag rest) :
    program.Gives position text 45 slots none := by
  refine Program.gives_note match_start (Program.gives_note first_start ?_)
  by_cases begins : BeginsSpaced openTag text
  · obtain ⟨lead, _, blank, rfl, mark, opening, rest, rfl⟩ := begins
    have lacks := other lead mark rest blank opening rfl
    rw [← List.takeWhile_append_dropWhile (p := isWhiteSpace) (l := rest)] at lacks
    refine gives_spaced_marker star_before_open open_reads isTag_openTag blank opening
      (gives_all_spaces star_behind_open rest ?_ ?_)
    · intro _ position c more spaces
      refine Program.gives_note first_stop (Program.gives_note second_start (gives_no_body _ _ _ ?_))
      intro mark closing inside
      have inside : mark <:+: (c :: more) ++ rest.dropWhile isWhiteSpace := inside
      exact lacks.of_suffix mark closing (closing.of_blank_append spaces inside)
    · exact Program.gives_note first_stop (Program.gives_note second_start
        (gives_no_body _ _ _ lacks.of_suffix))
  · exact gives_no_spaced_marker star_before_open open_reads isTag_openTag begins

/-! ## The search -/

theorem Trimmed.not_blank {front behind : List Char} (trimmed : Trimmed (front ++ behind))
    (some : behind ≠ []) : ¬ IsBlank behind := by
  intro blank
  have last := List.getLast?_eq_some_getLast some
  have member : behind.getLast some ∈ (front ++ behind).getLast? := by
    rw [List.getLast?_append, last]
    rfl
  have other := trimmed.last _ member
  rw [blank _ (List.getLast_mem some)] at other
  cases other

theorem Padded.ends {inner gap core trail tail : List Char} (padded : Padded inner gap core trail)
    (closing : Begins closeTag tail) :
    ∀ c ∈ (core ++ (trail ++ tail)).head?, isWhiteSpace c = false := by
  intro c head
  cases core with
  | nil =>
    obtain ⟨rest, rfl⟩ := closing.slashes
    rw [padded.empty rfl] at head
    cases head
    decide
  | cons d core => exact padded.trimmed.head c head

theorem Padded.between {inner gap core trail tail : List Char} (padded : Padded inner gap core trail)
    (closing : Begins closeTag tail) (between : Lacks closeTag inner) :
    ∀ front behind, core = front ++ behind → behind ≠ [] →
      ¬ BeginsSpaced closeTag (behind ++ (trail ++ tail)) := by
  rintro front behind rfl some ⟨lead, rest, blank, split, begins⟩
  have some' := padded.trimmed.not_blank some
  rcases List.append_eq_append_iff.1 split with ⟨more, rfl, _⟩ | ⟨more, rfl, rfl⟩
  · exact some' fun c member => blank c (List.mem_append_left _ member)
  · by_cases empty : more = []
    · subst empty
      rw [List.append_nil] at some'
      exact some' blank
    · have lacks : Lacks closeTag (more ++ trail) := by
        have lacks : Lacks closeTag ((gap ++ (front ++ lead)) ++ (more ++ trail)) := by
          rw [padded.whole] at between
          simpa only [List.append_assoc] using between
        exact lacks.of_suffix
      rw [← List.append_assoc] at begins
      exact lacks.not_begins_append isTag_closeTag (by simp [empty]) closing begins

/-- The search finds the region of a text, without the white space at its ends. -/
theorem search_region {inner tail gap core trail : List Char} (opening : IsMarker openTag mark)
    (closing : Begins closeTag tail) (between : Lacks closeTag inner)
    (padded : Padded inner gap core trail) : ∀ (head : List Char) (position : Nat)
    (previous : Option Char), Lacks openTag head →
    ∃ slots, program.searchFrom position previous (head ++ (mark ++ (inner ++ tail))) = some slots ∧
      Groups slots (position + head.length + mark.length + gap.length)
        (position + head.length + mark.length + gap.length + core.length) := by
  have spaced : BeginsSpaced closeTag (trail ++ tail) := ⟨trail, tail, padded.behind, rfl, closing⟩
  have whole : inner ++ tail = gap ++ (core ++ (trail ++ tail)) := by
    rw [padded.whole]
    simp only [List.append_assoc]
  intro head
  induction head with
  | nil =>
    intro position previous _
    have blank : IsBlank [] := fun _ => nofun
    obtain ⟨slots, gives, groups⟩ := gives_region blank opening padded.front (padded.ends closing)
      spaced (padded.between closing between) position
    rw [whole]
    exact ⟨slots, Program.searchFrom_of_match (Program.matchAt_of_tries descends (gives previous)), groups⟩
  | cons c head ih =>
    intro position previous before
    by_cases blank : IsBlank (c :: head)
    · obtain ⟨slots, gives, groups⟩ := gives_region blank opening padded.front
        (padded.ends closing) spaced (padded.between closing between) position
      rw [whole]
      exact ⟨slots, Program.searchFrom_of_match (Program.matchAt_of_tries descends (gives previous)), groups⟩
    · have unmatched : program.matchAt position previous
          (c :: (head ++ (mark ++ (inner ++ tail)))) = none := by
        refine Program.matchAt_of_tries descends (gives_no_region ?_ previous)
        intro lead other rest front earlier split
        exfalso
        have split : (c :: head) ++ (mark ++ (inner ++ tail)) = lead ++ (other ++ rest) := split
        rcases List.append_eq_append_iff.1 split with ⟨more, rfl, _⟩ | ⟨more, split, begins⟩
        · exact blank fun d member => front d (List.mem_append_left _ member)
        · by_cases empty : more = []
          · subst empty
            rw [List.append_nil] at split
            exact blank (split ▸ front)
          · rw [split] at before
            exact before.of_suffix.not_begins_append isTag_openTag empty
              ⟨mark, opening, List.prefix_append _ _⟩
              ⟨other, earlier, by rw [← begins]; exact List.prefix_append _ _⟩
      obtain ⟨slots, found, groups⟩ := ih (position + 1) (some c) before.tail
      have length : position + 1 + head.length = position + (c :: head).length := by
        rw [List.length_cons]
        omega
      rw [length] at groups
      exact ⟨slots, (Program.searchFrom_cons unmatched).trans found, groups⟩

theorem search_none : ∀ (text : List Char) (position : Nat) (previous : Option Char),
    (∀ mark rest, IsMarker openTag mark → mark ++ rest <:+ text → Lacks closeTag rest) →
    program.searchFrom position previous text = none := by
  intro text
  have unmatched : ∀ {text : List Char} (position : Nat) (previous : Option Char),
      (∀ mark rest, IsMarker openTag mark → mark ++ rest <:+ text → Lacks closeTag rest) →
      program.matchAt position previous text = none := by
    intro text position previous other
    refine Program.matchAt_of_tries descends (gives_no_region ?_ previous)
    intro lead mark rest _ opening whole
    exact other mark rest opening ⟨lead, whole.symm⟩
  induction text with
  | nil => intro position previous other; exact unmatched position previous other
  | cons c text ih =>
    intro position previous other
    rw [Program.searchFrom_cons (unmatched position previous other)]
    exact ih _ _ fun mark rest opening inside =>
      other mark rest opening (inside.trans (List.suffix_cons c text))

end PackageDoc.Marker
