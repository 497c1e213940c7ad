import Mathlib.Data.List.Induction
import Mathlib.Data.List.TakeWhile
import PackageDoc.Unicode.WhiteSpace

/-! # Markers and the region between them

A marker is two slashes, white space and a tag.  Two markers never overlap, so a region can be told by
what its parts lack: no opening marker stands in front of the first one, and no closing marker between
that and the end of the region. -/
set_option autoImplicit false

namespace PackageDoc.Marker
open PackageDoc.Unicode

def IsBlank (text : List Char) : Prop := ∀ c ∈ text, isWhiteSpace c = true

def openTag : List Char := ['<', 'r', 'e', 'p', 'l', 'a', 'c', 'e', '>']

def closeTag : List Char := ['<', '/', 'r', 'e', 'p', 'l', 'a', 'c', 'e', '>']

def IsMarker (tag mark : List Char) : Prop :=
  ∃ gap, IsBlank gap ∧ mark = '/' :: '/' :: (gap ++ tag)

def Begins (tag text : List Char) : Prop := ∃ mark, IsMarker tag mark ∧ mark <+: text

def Lacks (tag text : List Char) : Prop := ∀ mark, IsMarker tag mark → ¬ mark <:+: text

/-! ## Markers do not overlap -/

/-- Each slash is followed by another character. -/
def SlashesApart : List Char → Prop
  | [] => True
  | c :: rest => (c = '/' → ∃ d ∈ rest.head?, d ≠ '/') ∧ SlashesApart rest

theorem SlashesApart.behind : ∀ {front behind : List Char},
    SlashesApart (front ++ '/' :: behind) → ∃ c ∈ behind.head?, c ≠ '/' := by
  intro front
  induction front with
  | nil => intro behind apart; exact apart.1 rfl
  | cons c front ih => intro behind apart; exact ih apart.2

/-- What markers need of their tag not to overlap. -/
structure IsTag (tag : List Char) : Prop where
  first : tag.head? = some '<'
  last : tag.getLast? = some '>'
  apart : SlashesApart tag

theorem isTag_openTag : IsTag openTag :=
  ⟨rfl, rfl, by simp [SlashesApart, openTag]⟩

theorem isTag_closeTag : IsTag closeTag :=
  ⟨rfl, rfl, by simp [SlashesApart, closeTag]⟩

variable {tag mark : List Char}

theorem IsTag.gap_apart (isTag : IsTag tag) : ∀ {gap : List Char}, IsBlank gap →
    SlashesApart (gap ++ tag) ∧ ∃ c ∈ (gap ++ tag).head?, c ≠ '/' := by
  intro gap
  induction gap with
  | nil => intro _; exact ⟨isTag.apart, '<', isTag.first, by decide⟩
  | cons c gap ih =>
    intro blank
    have other : c ≠ '/' := by
      rintro rfl
      exact absurd (blank '/' List.mem_cons_self) (by decide)
    have apart := (ih fun d member => blank d (List.mem_cons_of_mem _ member)).1
    exact ⟨⟨fun slash => absurd slash other, apart⟩, c, rfl, other⟩

/-- Behind the start of a marker each slash is followed by another character. -/
theorem IsMarker.apart (isTag : IsTag tag) (isMarker : IsMarker tag mark) :
    SlashesApart mark.tail := by
  obtain ⟨gap, blank, rfl⟩ := isMarker
  obtain ⟨apart, next⟩ := isTag.gap_apart blank
  exact ⟨fun _ => next, apart⟩

theorem IsMarker.head? (isMarker : IsMarker tag mark) : mark.head? = some '/' := by
  obtain ⟨gap, _, rfl⟩ := isMarker
  rfl

theorem IsMarker.getLast? (isTag : IsTag tag) (isMarker : IsMarker tag mark) :
    mark.getLast? = some '>' := by
  obtain ⟨gap, _, rfl⟩ := isMarker
  have last := isTag.last
  rw [← List.cons_append, ← List.cons_append, List.getLast?_append, last]
  rfl

theorem Begins.slashes {text : List Char} (begins : Begins tag text) :
    ∃ rest, text = '/' :: '/' :: rest := by
  obtain ⟨_, ⟨gap, _, rfl⟩, rest, rfl⟩ := begins
  exact ⟨gap ++ tag ++ rest, rfl⟩

/-- A marker that begins in front of another one ends in front of it. -/
theorem IsMarker.prefix_of_begins (isTag : IsTag tag) (isMarker : IsMarker tag mark)
    {other front rest : List Char} (some : front ≠ []) (next : Begins other rest)
    (begins : mark <+: front ++ rest) : mark <+: front := by
  obtain ⟨rest, rfl⟩ := next.slashes
  rcases List.prefix_or_prefix_of_prefix begins (List.prefix_append front _) with inside | ⟨more, rfl⟩
  · exact inside
  have slashes := (List.prefix_append_right_inj front).1 begins
  cases more with
  | nil => simp
  | cons c more =>
    obtain ⟨rfl, next⟩ := List.cons_prefix_cons.1 slashes
    obtain ⟨d, front, rfl⟩ := List.exists_cons_of_ne_nil some
    have apart : SlashesApart (front ++ '/' :: more) := isMarker.apart isTag
    obtain ⟨e, head, other⟩ := apart.behind
    cases more with
    | nil => cases head
    | cons f more =>
      have slash := (List.cons_prefix_cons.1 next).1
      cases head
      exact absurd slash other

/-! ## White space around a text -/

/-- A text without white space at its ends. -/
structure Trimmed (text : List Char) : Prop where
  head : ∀ c ∈ text.head?, isWhiteSpace c = false
  last : ∀ c ∈ text.getLast?, isWhiteSpace c = false

theorem trimmed_iff (text : List Char) : Trimmed text ↔
    text.head?.all (!isWhiteSpace ·) = true ∧ text.getLast?.all (!isWhiteSpace ·) = true := by
  simp only [Option.all_eq_true, Bool.not_eq_true']
  constructor
  · intro trimmed
    exact ⟨trimmed.head, trimmed.last⟩
  · intro ends
    exact ⟨ends.1, ends.2⟩

instance (text : List Char) : Decidable (Trimmed text) := decidable_of_iff _ (trimmed_iff text).symm

theorem IsMarker.of_blank_append (isMarker : IsMarker tag mark) {lead body : List Char}
    (blank : IsBlank lead) (inside : mark <:+: lead ++ body) : mark <:+: body := by
  induction lead with
  | nil => exact inside
  | cons c lead ih =>
    refine ih (fun d member => blank d (List.mem_cons_of_mem _ member)) ?_
    rcases List.infix_cons_iff.1 inside with begins | inside
    · obtain ⟨gap, _, rfl⟩ := isMarker
      obtain ⟨rfl, _⟩ := List.cons_prefix_cons.1 begins
      exact absurd (blank '/' List.mem_cons_self) (by decide)
    · exact inside

theorem IsMarker.of_append_blank (isTag : IsTag tag) (isMarker : IsMarker tag mark)
    {body trail : List Char} (blank : IsBlank trail) (inside : mark <:+: body ++ trail) :
    mark <:+: body := by
  induction trail using List.reverseRecOn with
  | nil => rwa [List.append_nil] at inside
  | append_singleton trail c ih =>
    refine ih (fun d member => blank d (List.mem_append_left _ member)) ?_
    rw [← List.append_assoc] at inside
    rcases List.infix_concat_iff.1 inside with ⟨front, ends⟩ | inside
    · have last : (front ++ mark).getLast? = (body ++ trail ++ [c]).getLast? := by rw [ends]
      rw [List.getLast?_append, isMarker.getLast? isTag, List.getLast?_concat] at last
      cases last
      exact absurd (blank '>' (by simp)) (by decide)
    · exact inside

theorem Lacks.surround (isTag : IsTag tag) {lead body trail : List Char} (lacks : Lacks tag body)
    (front : IsBlank lead) (behind : IsBlank trail) : Lacks tag (lead ++ (body ++ trail)) := by
  intro mark isMarker inside
  exact lacks mark isMarker
    (isMarker.of_append_blank isTag behind (isMarker.of_blank_append front inside))

theorem head_dropWhile {p : Char → Bool} {text : List Char} :
    ∀ c ∈ (text.dropWhile p).head?, p c = false := by
  intro c member
  have stops := List.head?_dropWhile_not p text
  rw [Option.mem_def.1 member] at stops
  exact stops

/-- The white space at the ends of a text.  Of a text that is white space all of it comes first. -/
structure Padded (text lead core trail : List Char) : Prop where
  whole : text = lead ++ (core ++ trail)
  front : IsBlank lead
  behind : IsBlank trail
  trimmed : Trimmed core
  empty : core = [] → trail = []

theorem exists_padded (text : List Char) : ∃ lead trail, Padded text lead (trim text) trail := by
  let rest := text.dropWhile isWhiteSpace
  have split : rest = trim text ++ (rest.reverse.takeWhile isWhiteSpace).reverse := by
    show rest = (rest.reverse.dropWhile isWhiteSpace).reverse ++ _
    rw [← List.reverse_append, List.takeWhile_append_dropWhile, List.reverse_reverse]
  refine ⟨text.takeWhile isWhiteSpace, (rest.reverse.takeWhile isWhiteSpace).reverse, ?_, ?_, ?_,
    ⟨?_, ?_⟩, ?_⟩
  · rw [← split, List.takeWhile_append_dropWhile]
  · exact fun c member => List.mem_takeWhile_imp member
  · exact fun c member => List.mem_takeWhile_imp (List.mem_reverse.1 member)
  · intro c member
    have head : c ∈ rest.head? := by
      rw [split, List.head?_append, Option.mem_def.1 member]
      rfl
    exact head_dropWhile c head
  · intro c member
    rw [trim, List.getLast?_reverse] at member
    exact head_dropWhile c member
  · intro empty
    rw [empty, List.nil_append] at split
    cases found : rest with
    | nil => rfl
    | cons c others =>
      have blank : isWhiteSpace c = true := by
        have member : c ∈ rest := by rw [found]; exact List.mem_cons_self
        rw [split] at member
        exact List.mem_takeWhile_imp (List.mem_reverse.1 member)
      have head : c ∈ (text.dropWhile isWhiteSpace).head? := by
        show c ∈ rest.head?
        rw [found]
        rfl
      exact absurd (blank.symm.trans (head_dropWhile c head)) (by decide)

/-- A trimmed text is what white space stands around. -/
theorem Trimmed.exists_padded {lead core trail : List Char} (trimmed : Trimmed core)
    (front : IsBlank lead) (behind : IsBlank trail) :
    ∃ lead' trail', Padded (lead ++ (core ++ trail)) lead' core trail' := by
  by_cases empty : core = []
  · subst empty
    have blank : IsBlank (lead ++ trail) := by
      intro c member
      cases List.mem_append.1 member with
      | inl member => exact front c member
      | inr member => exact behind c member
    exact ⟨lead ++ trail, [], by simp, blank, fun _ => nofun, trimmed, fun _ => rfl⟩
  · exact ⟨lead, trail, rfl, front, behind, trimmed, fun none => absurd none empty⟩

/-! ## Regions -/

/-- A text begins with a marker behind white space. -/
def BeginsSpaced (tag text : List Char) : Prop :=
  ∃ lead rest, IsBlank lead ∧ text = lead ++ rest ∧ Begins tag rest

/-- The first opening marker of a text, what stands in front of it, and what follows up to the first
closing marker. -/
structure Region (head mark inner tail : List Char) : Prop where
  opening : IsMarker openTag mark
  before : Lacks openTag head
  closing : Begins closeTag tail
  between : Lacks closeTag inner

theorem Lacks.not_begins_append (isTag : IsTag tag) {other front rest : List Char}
    (lacks : Lacks tag front) (some : front ≠ []) (begins : Begins other rest) :
    ¬ Begins tag (front ++ rest) := by
  rintro ⟨mark, isMarker, prior⟩
  exact lacks mark isMarker (isMarker.prefix_of_begins isTag some begins prior).isInfix

theorem Lacks.of_suffix {front behind : List Char} (lacks : Lacks tag (front ++ behind)) :
    Lacks tag behind := fun mark isMarker inside =>
  lacks mark isMarker (inside.trans (List.suffix_append front behind).isInfix)

theorem Lacks.tail {c : Char} {text : List Char} (lacks : Lacks tag (c :: text)) : Lacks tag text :=
  fun mark isMarker inside => lacks mark isMarker (inside.trans (List.suffix_cons c text).isInfix)

theorem lacks_nil : Lacks tag [] := by
  rintro mark ⟨gap, _, rfl⟩ inside
  exact absurd (List.infix_nil.1 inside) (by simp)

theorem lacks_of_not_mem {text : List Char} (other : '/' ∉ text) : Lacks tag text := by
  rintro mark ⟨gap, _, rfl⟩ inside
  exact other (inside.subset List.mem_cons_self)

theorem Lacks.cons {c : Char} {text rest : List Char} (lacks : Lacks tag text)
    (other : ¬ Begins tag (c :: text ++ rest)) : Lacks tag (c :: text) := by
  intro mark isMarker inside
  rcases List.infix_cons_iff.1 inside with begins | inside
  · exact other ⟨mark, isMarker, begins.trans (List.prefix_append _ _)⟩
  · exact lacks mark isMarker inside

/-- A text that has a marker is cut in front of the first one. -/
theorem exists_first : ∀ {text : List Char}, ¬ Lacks tag text →
    ∃ front rest, text = front ++ rest ∧ Begins tag rest ∧ Lacks tag front := by
  intro text
  induction text with
  | nil => intro found; exact absurd lacks_nil found
  | cons c text ih =>
    intro found
    by_cases begins : Begins tag (c :: text)
    · exact ⟨[], c :: text, rfl, begins, lacks_nil⟩
    · have later : ¬ Lacks tag text := fun lacks =>
        found (lacks.cons (by rwa [List.append_nil]))
      obtain ⟨front, rest, rfl, first, lacks⟩ := ih later
      exact ⟨c :: front, rest, rfl, first, lacks.cons begins⟩

/-- A text that has an opening marker and a closing one behind it has a region. -/
theorem exists_region {mark rest : List Char} (isMarker : IsMarker openTag mark)
    (closed : ¬ Lacks closeTag rest) : ∀ {text : List Char}, mark ++ rest <:+ text →
    ∃ head mark inner tail, text = head ++ (mark ++ (inner ++ tail)) ∧
      Region head mark inner tail := by
  intro text
  induction text with
  | nil =>
    intro inside
    obtain ⟨gap, _, rfl⟩ := isMarker
    exact absurd (List.suffix_nil.1 inside) (by simp)
  | cons c text ih =>
    intro inside
    by_cases here : ∃ mark rest, IsMarker openTag mark ∧ c :: text = mark ++ rest ∧
        ¬ Lacks closeTag rest
    · obtain ⟨mark, rest, opening, whole, found⟩ := here
      obtain ⟨inner, tail, rfl, closing, between⟩ := exists_first found
      exact ⟨[], mark, inner, tail, whole, opening, lacks_nil, closing, between⟩
    · have later : mark ++ rest <:+ text := by
        rcases List.suffix_cons_iff.1 inside with whole | later
        · exact absurd ⟨mark, rest, isMarker, whole.symm, closed⟩ here
        · exact later
      obtain ⟨head, mark, inner, tail, rfl, region⟩ := ih later
      -- The closing marker would stand behind an earlier opening marker as well.
      have unopened : ¬ Begins openTag (c :: head ++ (mark ++ (inner ++ tail))) := by
        rintro ⟨other, opening, begins⟩
        have next : Begins openTag (mark ++ (inner ++ tail)) :=
          ⟨mark, region.opening, List.prefix_append _ _⟩
        obtain ⟨more, inside⟩ :=
          opening.prefix_of_begins isTag_openTag (List.cons_ne_nil _ _) next begins
        refine here ⟨other, more ++ (mark ++ (inner ++ tail)), opening, ?_, ?_⟩
        · rw [← List.append_assoc other, inside]
          rfl
        · obtain ⟨last, closing, ends⟩ := region.closing
          intro lacks
          refine lacks last closing (ends.isInfix.trans (List.IsSuffix.isInfix ?_))
          exact ⟨more ++ (mark ++ inner), by simp only [List.append_assoc]⟩
      exact ⟨c :: head, mark, inner, tail, rfl, region.opening, region.before.cons unopened,
        region.closing, region.between⟩

end PackageDoc.Marker
