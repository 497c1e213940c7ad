import Mathlib.Data.Option.Basic
import PackageDoc.Declaration

/-! # Declaration lines

A line made of indentation, the keyword, a name and a semicolon, with blanks between them and behind,
declares that name.  The rendered declaration of a package is such a line. -/
set_option autoImplicit false

namespace PackageDoc.Declaration
open PackageDoc.Text PackageDoc.Unicode

def IsBlanks (text : List Char) : Prop := ∀ c ∈ text, isBlank c = true

/-- What a declaration can name: no white space and no semicolon stand in it. -/
structure IsName (name : List Char) : Prop where
  filled : name ≠ []
  solid : ∀ c ∈ name, isWhiteSpace c = false
  unended : ';' ∉ name

/-- The first two conditions as the reader tests them. -/
theorem isName_iff (name : List Char) :
    IsName name ↔ name.isEmpty = false ∧ name.any isWhiteSpace = false ∧ ';' ∉ name := by
  rw [List.isEmpty_eq_false_iff]
  constructor
  · intro named
    refine ⟨named.filled, List.any_eq_false.2 fun c member => ?_, named.unended⟩
    rw [named.solid c member]
    exact Bool.false_ne_true
  · intro parts
    obtain ⟨filled, solid, unended⟩ := parts
    exact ⟨filled, fun c member => Bool.eq_false_iff.2 (List.any_eq_false.1 solid c member), unended⟩

instance (name : List Char) : Decidable (IsName name) := decidable_of_iff _ (isName_iff name).symm

/-- A declaration in its parts. -/
structure Declares (line name : List Char) (indent gap pad trail : List Char) : Prop where
  whole : line = indent ++ (keyword ++ (gap ++ (name ++ (pad ++ ';' :: trail))))
  named : IsName name
  indented : IsBlanks indent
  spaced : IsBlanks gap ∧ gap ≠ []
  padded : IsBlanks pad
  trailed : IsBlanks trail

/-! ## The steps of the reader -/

theorem isWhiteSpace_of_isBlank {c : Char} (blank : isBlank c = true) : isWhiteSpace c = true := by
  simp only [isBlank, Bool.or_eq_true, decide_eq_true_eq] at blank
  rcases blank with rfl | rfl
  · decide
  · decide

theorem IsName.not_blank {name : List Char} (named : IsName name) {c : Char} (member : c ∈ name) :
    isBlank c = false := by
  cases blank : isBlank c with
  | false => rfl
  | true =>
    rw [← named.solid c member]
    exact (isWhiteSpace_of_isBlank blank).symm

theorem dropWhile_blanks {blanks : List Char} (blank : IsBlanks blanks) {c : Char}
    (other : isBlank c = false) (rest : List Char) :
    (blanks ++ c :: rest).dropWhile isBlank = c :: rest := by
  rw [List.dropWhile_append_of_pos blank, List.dropWhile_cons_of_neg]
  rw [other]
  exact Bool.false_ne_true

theorem afterKeyword?_append : ∀ (word rest : List Char),
    afterKeyword? word (word ++ rest) = some rest := by
  intro word rest
  induction word with
  | nil => rfl
  | cons c word ih => simp only [List.cons_append, afterKeyword?, if_true, ih]

theorem splitAtSemicolon?_append : ∀ (front behind : List Char), ';' ∉ front →
    splitAtSemicolon? (front ++ ';' :: behind) = some (front, behind) := by
  intro front behind
  induction front with
  | nil => intro _; rfl
  | cons c front ih =>
    intro free
    have other : c ≠ ';' := fun same => free (same ▸ List.mem_cons_self)
    have later := ih fun member => free (List.mem_cons_of_mem c member)
    simp only [List.cons_append, splitAtSemicolon?, other, if_false, later, Option.map_some]

theorem trimEndBlanks_append {name pad : List Char} (named : IsName name) (blank : IsBlanks pad) :
    trimEndBlanks (name ++ pad) = name := by
  have behind : IsBlanks pad.reverse := fun c member => blank c (List.mem_reverse.1 member)
  cases reversed : name.reverse with
  | nil => exact absurd (List.reverse_eq_nil_iff.1 reversed) named.filled
  | cons c front =>
    have last : c ∈ name := List.mem_reverse.1 (reversed ▸ List.mem_cons_self)
    rw [trimEndBlanks, List.reverse_append, reversed, dropWhile_blanks behind (named.not_blank last),
      ← reversed, List.reverse_reverse]

/-! ## Lines that declare -/

theorem parseLine?_of_declares {line name indent gap pad trail : List Char}
    (declares : Declares line name indent gap pad trail) : parseLine? line = some name := by
  obtain ⟨rfl, named, indented, ⟨spaced, wide⟩, padded, trailed⟩ := declares
  have unindented : (indent ++ (keyword ++ (gap ++ (name ++ (pad ++ ';' :: trail))))).dropWhile
      isBlank = keyword ++ (gap ++ (name ++ (pad ++ ';' :: trail))) :=
    dropWhile_blanks indented (by decide) _
  have separated : (gap ++ (name ++ (pad ++ ';' :: trail))).head?.any isBlank = true := by
    cases gap with
    | nil => exact absurd rfl wide
    | cons c gap => exact spaced c List.mem_cons_self
  have reached : (gap ++ (name ++ (pad ++ ';' :: trail))).dropWhile isBlank =
      name ++ (pad ++ ';' :: trail) := by
    cases name with
    | nil => exact absurd rfl named.filled
    | cons c name => exact dropWhile_blanks spaced (named.not_blank List.mem_cons_self) _
  have free : ';' ∉ name ++ pad := by
    intro member
    cases List.mem_append.1 member with
    | inl member => exact named.unended member
    | inr member => exact absurd (padded _ member) (by decide)
  have ended := splitAtSemicolon?_append (name ++ pad) trail free
  rw [List.append_assoc] at ended
  obtain ⟨filled, solid, _⟩ := (isName_iff name).1 named
  have closed : trail.all isBlank = true := List.all_eq_true.2 trailed
  simp only [parseLine?, unindented, afterKeyword?_append, separated, reached, ended,
    trimEndBlanks_append named padded, filled, solid, closed, Option.bind_eq_bind, Option.bind_some]
  rfl

/-- The name that a rendered declaration declares is the package. -/
theorem parseLine?_render {name : List Char} (named : IsName name) :
    parseLine? (render name) = some name := by
  have declares : Declares (render name) name [] [' '] [] [] := by
    refine ⟨?_, named, fun _ => nofun, ⟨?_, List.cons_ne_nil _ _⟩, fun _ => nofun, fun _ => nofun⟩
    · rw [render, List.isEmpty_eq_false_iff.2 named.filled]
      rfl
    · intro c member
      rw [List.mem_singleton.1 member]
      rfl
  exact parseLine?_of_declares declares

end PackageDoc.Declaration
