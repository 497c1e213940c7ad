import PackageDoc.Proofs.Declaration.Line
import PackageDoc.Proofs.Text.Line

/-! # Rewriting a declaration

Rewriting a template replaces the content of its first declaration line.  The new content is a line
content again, so the other lines are read as before: the name takes the place of the first declared
one, or for the root package that one is left out, and a later rewriting finds the same line. -/
set_option autoImplicit false

namespace PackageDoc.Declaration
open PackageDoc.Text PackageDoc.Unicode

/-- The names that the declaration lines among some lines declare. -/
def declared (rows : List Line) : List (List Char) := rows.filterMap fun line => parseLine? line.content

/-- The lines before the first declaration line, that line, and those behind it. -/
structure Leads (rows front : List Line) (line : Line) (behind : List Line) : Prop where
  split : rows = front ++ line :: behind
  before : declared front = []
  declares : isDeclaration line = true

variable {rows front behind : List Line} {line : Line}

/-! ## The first declaration line -/

theorem declared_append (front behind : List Line) :
    declared (front ++ behind) = declared front ++ declared behind :=
  List.filterMap_append

theorem declared_cons_of_none {line : Line} (other : isDeclaration line = false) (rest : List Line) :
    declared (line :: rest) = declared rest := by
  rw [isDeclaration, Option.isSome_eq_false_iff, Option.isNone_iff_eq_none] at other
  exact List.filterMap_cons_none other

theorem exists_leads : ∀ {rows : List Line}, declared rows ≠ [] →
    ∃ front line behind, Leads rows front line behind := by
  intro rows
  induction rows with
  | nil => intro found; exact absurd rfl found
  | cons line rest ih =>
    intro found
    cases declares : isDeclaration line with
    | true => exact ⟨[], line, rest, rfl, rfl, declares⟩
    | false =>
      rw [declared_cons_of_none declares] at found
      obtain ⟨front, first, behind, leads⟩ := ih found
      refine ⟨line :: front, first, behind, ?_, ?_, leads.declares⟩
      · rw [leads.split, List.cons_append]
      · rw [declared_cons_of_none declares, leads.before]

theorem isDeclaration_of_declared_nil (none : declared rows = []) {line : Line}
    (member : line ∈ rows) : isDeclaration line = false := by
  rw [isDeclaration, Option.isSome_eq_false_iff, Option.isNone_iff_eq_none]
  exact List.forall_none_of_filterMap_eq_nil none line member

theorem declared_of_leads (leads : Leads rows front line behind) :
    ∃ name, parseLine? line.content = some name ∧ declared rows = name :: declared behind := by
  obtain ⟨name, parsed⟩ := Option.isSome_iff_exists.1 leads.declares
  refine ⟨name, parsed, ?_⟩
  rw [leads.split, declared_append, leads.before, List.nil_append]
  exact List.filterMap_cons_some parsed

theorem rewriteLines_of_declared_nil (package : List Char) : ∀ {rows : List Line},
    declared rows = [] → rewriteLines package rows = rows := by
  intro rows
  induction rows with
  | nil => intro _; rfl
  | cons line rest ih =>
    intro none
    have other := isDeclaration_of_declared_nil none List.mem_cons_self
    rw [declared_cons_of_none other] at none
    simp only [rewriteLines, other, Bool.false_eq_true, if_false, ih none]

theorem rewriteLines_of_leads (package : List Char) (leads : Leads rows front line behind) :
    rewriteLines package rows = front ++ { line with content := render package } :: behind := by
  obtain ⟨rfl, before, declares⟩ := leads
  induction front with
  | nil => simp only [List.nil_append, rewriteLines, declares, if_true]
  | cons other front ih =>
    have skipped := isDeclaration_of_declared_nil before List.mem_cons_self
    rw [declared_cons_of_none skipped] at before
    simp only [List.cons_append, rewriteLines, skipped, Bool.false_eq_true, if_false, ih before]

/-! ## The lines of a rewritten template -/

/-- A new content of one line leaves the division into lines. -/
theorem divided_replace {content : List Char} (unbroken : '\n' ∉ content)
    (ending : content.getLast? ≠ some '\r') (filled : content ++ line.terminator ≠ [])
    (divided : Divided (front ++ line :: behind)) :
    Divided (front ++ { line with content := content } :: behind) := by
  rw [divided_append_iff (List.cons_ne_nil _ _)] at divided ⊢
  obtain ⟨before, proper, closed, others⟩ := divided
  exact ⟨before, ⟨unbroken, proper.terminated, fun _ => ending⟩,
    closed.imp_right fun last => ⟨last.1, filled⟩, others⟩

theorem IsName.unbroken {name : List Char} (named : IsName name) : '\n' ∉ render name := by
  rw [render, List.isEmpty_eq_false_iff.2 named.filled]
  have solid : '\n' ∉ name := fun member => absurd (named.solid _ member) (by decide)
  simp [keyword, solid]

theorem IsName.getLast?_render {name : List Char} (named : IsName name) :
    (render name).getLast? = some ';' := by
  rw [render, List.isEmpty_eq_false_iff.2 named.filled]
  simp only [Bool.false_eq_true, if_false, List.getLast?_append, List.getLast?_singleton]
  rfl

variable {template : String} {package : String}

/-- The new declaration has no line of its own if it is empty and nothing ends it. -/
theorem lines_rewrite (leads : Leads (lines template.toList) front line behind)
    (named : IsName package.toList ∨ package = "" ∧ line.terminator ≠ []) :
    lines (rewrite template package).toList =
      front ++ { line with content := render package.toList } :: behind := by
  rw [rewrite, String.toList_ofList, rewriteLines_of_leads _ leads]
  apply lines_unlines
  have divided := divided_lines template.toList
  rw [leads.split] at divided
  cases named with
  | inl named =>
    have last := named.getLast?_render
    apply divided_replace named.unbroken ?_ ?_ divided
    · rw [last]
      decide
    · intro empty
      rw [(List.append_eq_nil_iff.1 empty).1] at last
      cases last
  | inr root =>
    obtain ⟨rfl, ended⟩ := root
    exact divided_replace List.not_mem_nil (by decide) ended divided

/-- The last declaration goes with its line if nothing ends it and the package is the root. -/
theorem lines_rewrite_root (leads : Leads (lines template.toList) front line behind)
    (unended : line.terminator = []) :
    lines (rewrite template "").toList = front ∧ behind = [] := by
  have divided := divided_lines template.toList
  rw [leads.split, divided_append_iff (List.cons_ne_nil _ _)] at divided
  obtain ⟨before, _, closed, _⟩ := divided
  have last : behind = [] := by
    cases closed with
    | inl ended =>
      rw [Line.Ended, unended] at ended
      cases ended
    | inr last => exact last.1
  refine ⟨?_, last⟩
  have text : unlines (front ++ { line with content := render [] } :: behind) = unlines front := by
    simp [unlines, Line.text, last, unended, render]
  rw [rewrite, String.toList_ofList, String.toList_empty, rewriteLines_of_leads _ leads, text]
  exact lines_unlines (divided_of_ended before)

theorem rewrite_of_declared_nil (package : String) (none : declared (lines template.toList) = []) :
    rewrite template package = template := by
  rw [rewrite, rewriteLines_of_declared_nil _ none, unlines_lines, String.ofList_toList]

/-- The template with another text in the place of the declaration. -/
theorem rewrite_of_leads (package : String) (leads : Leads (lines template.toList) front line behind) :
    rewrite template package = String.ofList (unlines front) ++
      String.ofList (render package.toList) ++ String.ofList (line.terminator ++ unlines behind) := by
  rw [rewrite, rewriteLines_of_leads _ leads, ← String.ofList_append, ← String.ofList_append,
    String.ofList_inj]
  simp [unlines, Line.text]

theorem declared_rewrite (named : IsName package.toList)
    (leads : Leads (lines template.toList) front line behind) :
    declared (lines (rewrite template package).toList) =
      package.toList :: (declared (lines template.toList)).tail := by
  obtain ⟨old, _, names⟩ := declared_of_leads leads
  have new : declared ({ line with content := render package.toList } :: behind) =
      package.toList :: declared behind := List.filterMap_cons_some (parseLine?_render named)
  rw [lines_rewrite leads (.inl named), declared_append, leads.before, List.nil_append, new, names,
    List.tail_cons]

theorem leads_rewrite (named : IsName package.toList)
    (leads : Leads (lines template.toList) front line behind) :
    Leads (lines (rewrite template package).toList) front
      { line with content := render package.toList } behind := by
  refine ⟨lines_rewrite leads (.inl named), leads.before, ?_⟩
  rw [isDeclaration, parseLine?_render named]
  rfl

/-! ## The bytes of the declaration -/

/-- A text in three parts, the second of which stands at a range of bytes. -/
structure ByteRange.Cuts (range : ByteRange) (text front inner behind : String) : Prop where
  whole : text = front ++ inner ++ behind
  start : range.start = front.utf8ByteSize
  stop : range.stop = (front ++ inner).utf8ByteSize

/-- Both ends of the range lie between characters of the text. -/
def ByteRange.OnBoundaries (range : ByteRange) (text : String) : Prop :=
  String.Pos.Raw.IsValid text ⟨range.start⟩ ∧ String.Pos.Raw.IsValid text ⟨range.stop⟩

theorem ByteRange.Cuts.onBoundaries {range : ByteRange} {text front inner behind : String}
    (cuts : range.Cuts text front inner behind) : range.OnBoundaries text := by
  constructor
  · rw [String.Pos.Raw.isValid_iff_exists_append]
    exact ⟨front, inner ++ behind, by rw [cuts.whole, String.append_assoc],
      by rw [cuts.start, String.rawEndPos]⟩
  · rw [String.Pos.Raw.isValid_iff_exists_append]
    exact ⟨front ++ inner, behind, cuts.whole, by rw [cuts.stop, String.rawEndPos]⟩

theorem findFrom_eq_none_iff : ∀ (rows : List Line) (offset : Nat),
    findFrom offset rows = none ↔ declared rows = [] := by
  intro rows
  induction rows with
  | nil => intro offset; exact iff_of_true rfl rfl
  | cons line rest ih =>
    intro offset
    cases declares : isDeclaration line with
    | true =>
      obtain ⟨name, parsed⟩ := Option.isSome_iff_exists.1 declares
      have names : declared (line :: rest) = name :: declared rest := List.filterMap_cons_some parsed
      rw [names]
      simp [findFrom, declares]
    | false =>
      rw [declared_cons_of_none declares, ← ih (offset + byteLength line.text)]
      simp [findFrom, declares]

theorem find?_eq_none_iff (template : String) :
    find? template = none ↔ declared (lines template.toList) = [] :=
  findFrom_eq_none_iff _ 0

theorem findFrom_of_leads (leads : Leads rows front line behind) (offset : Nat) :
    findFrom offset rows = some ⟨offset + byteLength (unlines front),
      offset + byteLength (unlines front ++ line.content)⟩ := by
  obtain ⟨rfl, before, declares⟩ := leads
  induction front generalizing offset with
  | nil => simp [findFrom, declares, unlines, byteLength]
  | cons other front ih =>
    have skipped := isDeclaration_of_declared_nil before List.mem_cons_self
    rw [declared_cons_of_none skipped] at before
    have text : unlines (other :: front) = other.text ++ unlines front := rfl
    rw [List.cons_append, findFrom, skipped, ih _ before, text]
    simp only [List.append_assoc, byteLength_append, Nat.add_assoc, Bool.false_eq_true, if_false]

theorem find?_of_leads (leads : Leads (lines template.toList) front line behind) :
    ∃ range, find? template = some range ∧
      range.Cuts template (String.ofList (unlines front)) (String.ofList line.content)
        (String.ofList (line.terminator ++ unlines behind)) := by
  refine ⟨_, findFrom_of_leads leads 0, ?_, ?_, ?_⟩
  · rw [← String.ofList_append, ← String.ofList_append, ← String.toList_inj, String.toList_ofList]
    conv => lhs; rw [← unlines_lines template.toList, leads.split]
    simp [unlines, Line.text]
  · rw [utf8ByteSize_ofList]
    exact Nat.zero_add _
  · rw [← String.ofList_append, utf8ByteSize_ofList]
    exact Nat.zero_add _

/-! ## What rewriting does -/

/-- A template is divided into lines that end at line feeds or at its end.  Without a declaration line it
stays as it is, and otherwise the first one is found, in its bytes without the terminator, and replaced by
the declaration of the name: all other text and all other lines stay, and the name takes the place of the
first declared one. -/
theorem rewrite_redeclares (template name : String) (named : IsName name.toList) :
    let rows := lines template.toList
    let result := rewrite template name
    (unlines rows = template.toList ∧ Divided rows) ∧
    (declared rows = [] → result = template ∧ find? template = none) ∧
    (declared rows ≠ [] → ∃ front line behind range,
      Leads rows front line behind ∧
      lines result.toList =
        front ++ { line with content := ("package " ++ name ++ ";").toList } :: behind ∧
      declared (lines result.toList) = name.toList :: (declared rows).tail ∧
      find? template = some range ∧ range.OnBoundaries template ∧
      range.Cuts template (String.ofList (unlines front)) (String.ofList line.content)
        (String.ofList (line.terminator ++ unlines behind)) ∧
      result = String.ofList (unlines front) ++ ("package " ++ name ++ ";") ++
        String.ofList (line.terminator ++ unlines behind)) := by
  intro rows result
  refine ⟨(lines_eq_iff _ _).1 rfl, ?_, ?_⟩
  · intro none
    exact ⟨rewrite_of_declared_nil name none, (find?_eq_none_iff template).2 none⟩
  · intro present
    obtain ⟨front, line, behind, leads⟩ := exists_leads present
    obtain ⟨range, found, cuts⟩ := find?_of_leads leads
    have rendered : render name.toList = ("package " ++ name ++ ";").toList := by
      rw [render, List.isEmpty_eq_false_iff.2 named.filled]
      simp [keyword]
    refine ⟨front, line, behind, range, leads, ?_, declared_rewrite named leads, found,
      cuts.onBoundaries, cuts, ?_⟩
    · rw [← rendered]
      exact lines_rewrite leads (.inl named)
    · have spliced := rewrite_of_leads name leads
      rw [rendered, String.ofList_toList] at spliced
      exact spliced

namespace Sample

/-- Indentation, blanks behind the semicolon, a character of two bytes and both kinds of terminators. -/
def indented : String := "/** \u00e9 */\r\n\tpackage old ; \r\npackage b;\nclass A"

end Sample

theorem rewrite_redeclares_sample :
    IsName "com.example".toList ∧ declared (lines Sample.indented.toList) ≠ [] ∧
    declared (lines (rewrite Sample.indented "com.example").toList) = ["com.example".toList, ['b']] ∧
    find? Sample.indented = some ⟨11, 26⟩ ∧ ByteRange.OnBoundaries ⟨11, 26⟩ Sample.indented := by
  have named : IsName "com.example".toList := by decide
  have declares : declared (lines Sample.indented.toList) ≠ [] := by decide +kernel
  have located : find? Sample.indented = some ⟨11, 26⟩ := by decide +kernel
  have names : (declared (lines Sample.indented.toList)).tail = [['b']] := by decide +kernel
  obtain ⟨_, _, _, _, _, _, renamed, found, boundaries, _⟩ :=
    (rewrite_redeclares Sample.indented "com.example" named).2.2 declares
  rw [located, Option.some.injEq] at found
  rw [names] at renamed
  exact ⟨named, declares, renamed, located, found ▸ boundaries⟩

/-- For the root package the first declaration is left out, and those behind it stay. -/
theorem root_drops_first_declaration (template : String) :
    declared (lines (rewrite template "").toList) = (declared (lines template.toList)).tail ∧
    (find? (rewrite template "") = none ↔ (declared (lines template.toList)).length ≤ 1) := by
  have names : declared (lines (rewrite template "").toList) =
      (declared (lines template.toList)).tail := by
    by_cases none : declared (lines template.toList) = []
    · rw [rewrite_of_declared_nil "" none, none, List.tail_nil]
    · obtain ⟨front, line, behind, leads⟩ := exists_leads none
      obtain ⟨old, _, before⟩ := declared_of_leads leads
      rw [before, List.tail_cons]
      by_cases ended : line.terminator = []
      · obtain ⟨kept, last⟩ := lines_rewrite_root leads ended
        rw [kept, last, leads.before]
        rfl
      · rw [lines_rewrite leads (.inr ⟨rfl, ended⟩), declared_append, leads.before]
        rfl
  refine ⟨names, ?_⟩
  rw [find?_eq_none_iff, names]
  cases declared (lines template.toList) with
  | nil => simp
  | cons first others => simp

theorem second_declaration_stays :
    let template := "package a;\npackage b;\n"
    rewrite template "" = "\npackage b;\n" ∧ find? (rewrite template "") = some ⟨1, 11⟩ := by
  decide +kernel

/-- A later rewriting replaces what an earlier one wrote. -/
theorem last_rewrite_wins (template first last : String) (named : IsName first.toList) :
    rewrite (rewrite template first) last = rewrite template last := by
  by_cases none : declared (lines template.toList) = []
  · rw [rewrite_of_declared_nil first none]
  · obtain ⟨front, line, behind, leads⟩ := exists_leads none
    rw [rewrite_of_leads last (leads_rewrite named leads), rewrite_of_leads last leads]

theorem last_rewrite_wins_sample :
    IsName "com.example".toList ∧
    rewrite (rewrite Sample.indented "com.example") "" = rewrite Sample.indented "" ∧
    rewrite Sample.indented "" = "/** \u00e9 */\r\n\r\npackage b;\nclass A" := by
  have named : IsName "com.example".toList := by decide
  exact ⟨named, last_rewrite_wins Sample.indented "com.example" "" named, by decide +kernel⟩

end PackageDoc.Declaration
