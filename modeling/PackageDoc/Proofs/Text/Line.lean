import PackageDoc.Text.Line

/-! # Lines and their texts

What `lines` finds is exactly the division of a text into rows that end at a line feed or at the end
of the text, each with its terminator cut off.  So a text that is written row by row is read back as
the same rows. -/
set_option autoImplicit false

namespace PackageDoc.Text

/-! ## Rows -/

/-- A content without a line feed, and as much of a terminator as stands there. -/
structure Line.Proper (line : Line) : Prop where
  unbroken : '\n' ∉ line.content
  terminated : line.terminator ∈ [[], ['\r'], ['\n'], ['\r', '\n']]
  whole : '\r' ∉ line.terminator → line.content.getLast? ≠ some '\r'

/-- The line ends at a line feed. -/
def Line.Ended (line : Line) : Prop := '\n' ∈ line.terminator

/-- Every row but the last ends at a line feed, and no row is empty. -/
def Divided : List Line → Prop
  | [] => True
  | line :: rest => line.Proper ∧ (line.Ended ∨ rest = [] ∧ line.text ≠ []) ∧ Divided rest

namespace Line
variable {line : Line} {c : Char}

theorem Proper.terminator_of_free (proper : line.Proper) (free : '\r' ∉ line.terminator) :
    line.terminator = [] ∨ line.terminator = ['\n'] := by
  have terminated := proper.terminated
  simp only [List.mem_cons, List.not_mem_nil, or_false] at terminated
  rcases terminated with none | lone | feed | pair
  · exact .inl none
  · exact absurd (lone ▸ List.mem_cons_self) free
  · exact .inr feed
  · exact absurd (pair ▸ List.mem_cons_self) free

theorem Proper.cons (proper : line.Proper) (inner : c ≠ '\n') : (line.cons c).Proper := by
  unfold Line.cons
  split
  next absorbed =>
    obtain ⟨rfl, _, tail⟩ := absorbed
    refine ⟨List.not_mem_nil, ?_, fun free => absurd List.mem_cons_self free⟩
    rcases tail with tail | tail
    · simp [tail]
    · simp [tail]
  next kept =>
    refine ⟨?_, proper.terminated, ?_⟩
    · intro member
      cases List.mem_cons.1 member with
      | inl same => exact inner same.symm
      | inr member => exact proper.unbroken member
    · intro free last
      cases found : line.content with
      | nil =>
        rw [found] at last
        have same : c = '\r' := Option.some.inj last
        exact kept ⟨same, found, proper.terminator_of_free free⟩
      | cons d content =>
        rw [found, List.getLast?_cons_cons] at last
        exact proper.whole free (found ▸ last)

theorem Ended.cons (ended : line.Ended) (c : Char) : (line.cons c).Ended := by
  unfold Line.cons
  split
  next => exact List.mem_cons_of_mem c ended
  next => exact ended

theorem text_cons_ne_nil (c : Char) (line : Line) : (line.cons c).text ≠ [] := by
  rw [text_cons]
  exact List.cons_ne_nil c line.text

end Line

/-! ## Divisions -/

/-- Rows before others end at line feeds. -/
theorem divided_append_iff {behind : List Line} (more : behind ≠ []) : ∀ (front : List Line),
    Divided (front ++ behind) ↔ (∀ row ∈ front, row.Proper ∧ row.Ended) ∧ Divided behind := by
  intro front
  induction front with
  | nil => simp
  | cons first front ih =>
    have others : front ++ behind ≠ [] := List.append_ne_nil_of_right_ne_nil front more
    simp only [List.cons_append, Divided, others, false_and, or_false, ih, List.forall_mem_cons,
      and_assoc]

theorem divided_of_ended : ∀ {rows : List Line}, (∀ row ∈ rows, row.Proper ∧ row.Ended) →
    Divided rows := by
  intro rows
  induction rows with
  | nil => intro _; trivial
  | cons first rest ih =>
    intro ended
    obtain ⟨proper, closed⟩ := ended first List.mem_cons_self
    exact ⟨proper, .inl closed, ih fun row member => ended row (List.mem_cons_of_mem first member)⟩

/-! ## Reading rows -/

theorem divided_lines (text : List Char) : Divided (lines text) := by
  induction text with
  | nil => trivial
  | cons c rest ih =>
    simp only [lines]
    split
    next =>
      refine ⟨⟨List.not_mem_nil, by decide, ?_⟩, .inl List.mem_cons_self, ih⟩
      intro _ last
      cases last
    next inner =>
      split
      next =>
        have blank : Line.Proper ⟨[], []⟩ := by
          refine ⟨List.not_mem_nil, by decide, ?_⟩
          intro _ last
          cases last
        exact ⟨blank.cons inner, .inr ⟨rfl, Line.text_cons_ne_nil c _⟩, trivial⟩
      next line others found =>
        rw [found] at ih
        obtain ⟨proper, closed, divided⟩ := ih
        refine ⟨proper.cons inner, ?_, divided⟩
        cases closed with
        | inl ended => exact .inl (ended.cons c)
        | inr last => exact .inr ⟨last.1, Line.text_cons_ne_nil c line⟩

/-- A row in front of a text that it does not run into. -/
theorem lines_append {terminator rest : List Char} : ∀ (content : List Char),
    Line.Proper ⟨content, terminator⟩ →
    Line.Ended ⟨content, terminator⟩ ∨ rest = [] ∧ Line.text ⟨content, terminator⟩ ≠ [] →
    lines (content ++ (terminator ++ rest)) = ⟨content, terminator⟩ :: lines rest := by
  intro content
  induction content with
  | nil =>
    intro proper closed
    have terminated := proper.terminated
    simp only [List.mem_cons, List.not_mem_nil, or_false] at terminated
    rcases terminated with rfl | rfl | rfl | rfl
    · simp [Line.Ended, Line.text] at closed
    · have last : rest = [] := by simpa [Line.Ended, Line.text] using closed
      rw [last]
      rfl
    · rfl
    · rfl
  | cons c content ih =>
    intro proper closed
    have inner : c ≠ '\n' := fun same => proper.unbroken (same ▸ List.mem_cons_self)
    have shorter : Line.Proper ⟨content, terminator⟩ := by
      refine ⟨fun member => proper.unbroken (List.mem_cons_of_mem c member), proper.terminated, ?_⟩
      intro free last
      apply proper.whole free
      cases content with
      | nil => cases last
      | cons d content => rw [List.getLast?_cons_cons]; exact last
    have kept : Line.cons c ⟨content, terminator⟩ = ⟨c :: content, terminator⟩ := by
      unfold Line.cons
      rw [if_neg]
      rintro ⟨rfl, empty, terminator⟩
      have empty : content = [] := empty
      subst empty
      rcases terminator with none | feed
      · have none : _ = [] := none
        subst none
        exact proper.whole List.not_mem_nil rfl
      · have feed : _ = ['\n'] := feed
        subst feed
        exact proper.whole (by decide) rfl
    by_cases empty : content = [] ∧ terminator = []
    · obtain ⟨rfl, rfl⟩ := empty
      have last : rest = [] := by simpa [Line.Ended, Line.text] using closed
      subst last
      simp only [List.cons_append, List.nil_append, lines, inner, if_false, kept]
    · have behind : Line.Ended ⟨content, terminator⟩ ∨
          rest = [] ∧ Line.text ⟨content, terminator⟩ ≠ [] := by
        refine closed.imp_right fun last => ⟨last.1, ?_⟩
        intro none
        exact empty (List.append_eq_nil_iff.1 none)
      simp only [List.cons_append, lines, inner, if_false, ih shorter behind, kept]

/-- Rows that are divided properly are read back from their text. -/
theorem lines_unlines : ∀ {rows : List Line}, Divided rows → lines (unlines rows) = rows := by
  intro rows
  induction rows with
  | nil => intro _; rfl
  | cons line rest ih =>
    intro divided
    obtain ⟨proper, closed, others⟩ := divided
    have text : unlines (line :: rest) = line.content ++ (line.terminator ++ unlines rest) := by
      rw [← List.append_assoc]
      rfl
    have behind : line.Ended ∨ unlines rest = [] ∧ line.text ≠ [] :=
      closed.imp_right fun last => ⟨by rw [last.1]; rfl, last.2⟩
    rw [text, lines_append line.content proper behind, ih others]

theorem lines_eq_iff (text : List Char) (rows : List Line) :
    lines text = rows ↔ unlines rows = text ∧ Divided rows := by
  constructor
  · intro read
    subst read
    exact ⟨unlines_lines text, divided_lines text⟩
  · intro written
    obtain ⟨rfl, divided⟩ := written
    exact lines_unlines divided

/-! ## Bytes -/

theorem byteLength_append (front rest : List Char) :
    byteLength (front ++ rest) = byteLength front + byteLength rest := by
  induction front with
  | nil => rw [List.nil_append, byteLength, Nat.zero_add]
  | cons c front ih => rw [List.cons_append, byteLength, byteLength, ih, Nat.add_assoc]

theorem utf8ByteSize_ofList (text : List Char) :
    (String.ofList text).utf8ByteSize = byteLength text := by
  induction text with
  | nil => rfl
  | cons c rest ih =>
    have front : String.ofList (c :: rest) = String.singleton c ++ String.ofList rest := by
      rw [← String.toList_inj]
      simp
    rw [front, String.utf8ByteSize_append, String.utf8ByteSize_singleton, ih, byteLength]

end PackageDoc.Text
