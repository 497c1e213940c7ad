import PackageDoc.Proofs.Declaration.Line

/-! # The grammar of declarations

The reader accepts exactly the lines of the grammar, and a line declares at most one name.  A rendered
declaration is read back as its package if and only if the package is a name. -/
set_option autoImplicit false

namespace PackageDoc.Declaration
open PackageDoc.Unicode

/-! ## What each step of the reader takes away -/

theorem eq_append_of_afterKeyword? : ∀ {word text rest : List Char},
    afterKeyword? word text = some rest → text = word ++ rest := by
  intro word
  induction word with
  | nil =>
    intro text rest found
    exact Option.some.inj found
  | cons expected word ih =>
    intro text rest found
    cases text with
    | nil => cases found
    | cons c text =>
      rw [afterKeyword?] at found
      split at found
      next same => rw [same, ih found, List.cons_append]
      next => cases found

theorem eq_append_of_splitAtSemicolon? : ∀ {text before behind : List Char},
    splitAtSemicolon? text = some (before, behind) → text = before ++ ';' :: behind ∧ ';' ∉ before := by
  intro text
  induction text with
  | nil => intro before behind split; cases split
  | cons c text ih =>
    intro before behind found
    rw [splitAtSemicolon?] at found
    split at found
    next ended =>
      cases found
      exact ⟨congrArg (· :: text) ended, List.not_mem_nil⟩
    next other =>
      obtain ⟨⟨front, last⟩, later, whole⟩ := Option.map_eq_some_iff.1 found
      cases whole
      obtain ⟨rfl, free⟩ := ih later
      refine ⟨rfl, ?_⟩
      rw [List.mem_cons, not_or]
      exact ⟨Ne.symm other, free⟩

theorem exists_blanks_dropWhile (text : List Char) :
    ∃ blanks, IsBlanks blanks ∧ text = blanks ++ text.dropWhile isBlank :=
  ⟨text.takeWhile isBlank, List.all_eq_true.1 List.all_takeWhile,
    List.takeWhile_append_dropWhile.symm⟩

theorem exists_trimEndBlanks (text : List Char) :
    ∃ pad, IsBlanks pad ∧ text = trimEndBlanks text ++ pad := by
  obtain ⟨blanks, blank, whole⟩ := exists_blanks_dropWhile text.reverse
  refine ⟨blanks.reverse, fun c member => blank c (List.mem_reverse.1 member), ?_⟩
  rw [trimEndBlanks, ← List.reverse_append, ← whole, List.reverse_reverse]

/-! ## The whole line -/

theorem exists_declares_of_parseLine? {line name : List Char} (parsed : parseLine? line = some name) :
    ∃ indent gap pad trail, Declares line name indent gap pad trail := by
  simp only [parseLine?, Option.bind_eq_bind, Option.bind_eq_some_iff, Option.guard_eq_some'] at parsed
  obtain ⟨rest, keyed, _, spaced, ⟨before, trail⟩, found, _, tested, _, closed, same⟩ := parsed
  obtain rfl := Option.some.inj same
  obtain ⟨indent, indented, whole⟩ := exists_blanks_dropWhile line
  rw [eq_append_of_afterKeyword? keyed] at whole
  cases rest with
  | nil => cases spaced
  | cons c rest =>
    have blank : isBlank c = true := spaced
    rw [List.dropWhile_cons_of_pos blank] at found
    obtain ⟨gap, gapBlank, reached⟩ := exists_blanks_dropWhile rest
    obtain ⟨ended, free⟩ := eq_append_of_splitAtSemicolon? found
    obtain ⟨pad, padded, named⟩ := exists_trimEndBlanks before
    refine ⟨indent, c :: gap, pad, trail, ?_, ?_, indented, ⟨?_, List.cons_ne_nil _ _⟩, padded,
      List.all_eq_true.1 closed⟩
    · rw [whole, reached, ended]
      conv => lhs; rw [named]
      simp only [List.cons_append, List.append_assoc]
    · rw [isName_iff]
      rw [Bool.and_eq_true, Bool.not_eq_true', Bool.not_eq_true'] at tested
      refine ⟨tested.1, tested.2, fun member => free ?_⟩
      rw [named]
      exact List.mem_append_left _ member
    · intro other member
      rcases List.mem_cons.1 member with rfl | later
      · exact blank
      · exact gapBlank other later

theorem parseLine?_eq_some_iff {line name : List Char} : parseLine? line = some name ↔
    ∃ indent gap pad trail, Declares line name indent gap pad trail := by
  constructor
  · exact exists_declares_of_parseLine?
  · rintro ⟨_, _, _, _, declares⟩
    exact parseLine?_of_declares declares

theorem parseLine?_render_iff {package : List Char} :
    parseLine? (render package) = some package ↔ IsName package := by
  constructor
  · intro parsed
    obtain ⟨_, _, _, _, declares⟩ := exists_declares_of_parseLine? parsed
    exact declares.named
  · exact parseLine?_render

/-- The reader accepts the lines of the grammar with the names that they declare, of which each has one.
Of the rendered declarations, those of names are read back. -/
theorem reader_accepts_grammar (line name : List Char) :
    (parseLine? line = some name ↔
      ∃ indent gap pad trail, Declares line name indent gap pad trail) ∧
    (∀ other, (∃ indent gap pad trail, Declares line name indent gap pad trail) →
      (∃ indent gap pad trail, Declares line other indent gap pad trail) → other = name) ∧
    (∀ package, parseLine? (render package) = some package ↔ IsName package) := by
  refine ⟨parseLine?_eq_some_iff, ?_, fun package => parseLine?_render_iff⟩
  intro other declares declares'
  rw [← parseLine?_eq_some_iff] at declares declares'
  rw [declares, Option.some.injEq] at declares'
  exact declares'.symm

theorem reader_accepts_grammar_sample :
    parseLine? "\tpackage  com.example \t; ".toList = some "com.example".toList ∧
      (∃ indent gap pad trail, Declares "\tpackage  com.example \t; ".toList "com.example".toList
        indent gap pad trail) ∧
      ∀ other, (∃ indent gap pad trail, Declares "\tpackage  com.example \t; ".toList other
        indent gap pad trail) → other = "com.example".toList := by
  have parsed : parseLine? "\tpackage  com.example \t; ".toList = some "com.example".toList := by
    decide +kernel
  obtain ⟨accepts, unique, _⟩ :=
    reader_accepts_grammar "\tpackage  com.example \t; ".toList "com.example".toList
  have declares := accepts.1 parsed
  exact ⟨parsed, declares, fun other declares' => unique other declares declares'⟩

end PackageDoc.Declaration
