import PackageDoc.Proofs.Marker.Replace

/-! # What the default pattern means

The region of a text told by places: it runs from the end of the first opening marker to the first
closing marker that begins there or later, less the white space at its two ends.  That is the span which
a replacement fills. -/
set_option autoImplicit false

namespace PackageDoc.Marker
open PackageDoc.Regex PackageDoc.Unicode

/-- A marker stands in a text, between two places of it. -/
structure Stands (tag text : List Char) (span : Span) : Prop where
  bounded : span.stop ≤ text.length
  marker : IsMarker tag (span.extract text)

/-- The first opening marker of a text ends at a place. -/
def OpensAt (text : List Char) (place : Nat) : Prop :=
  ∃ start, Stands openTag text ⟨start, place⟩ ∧
    ∀ span, Stands openTag text span → start ≤ span.start

/-- A closing marker begins at a place. -/
def ClosesAt (text : List Char) (place : Nat) : Prop := ∃ stop, Stands closeTag text ⟨place, stop⟩

/-- A region runs from the end of the first opening marker to the first closing marker from there on. -/
structure Encloses (text : List Char) (region : Span) : Prop where
  opening : OpensAt text region.start
  ordered : region.start ≤ region.stop
  closing : ClosesAt text region.stop
  first : ∀ place, region.start ≤ place → ClosesAt text place → region.stop ≤ place

variable {tag text : List Char}

theorem stands_append {mark : List Char} (isMarker : IsMarker tag mark) (front rest : List Char) :
    Stands tag (front ++ (mark ++ rest)) ⟨front.length, front.length + mark.length⟩ := by
  constructor
  · simp
  · rw [Span.extract_append]
    exact isMarker

theorem Stands.cut {span : Span} (stands : Stands tag text span) :
    ∃ front mark rest, text = front ++ (mark ++ rest) ∧ IsMarker tag mark ∧
      span.start = front.length ∧ span.stop = front.length + mark.length := by
  have isMarker := stands.marker
  have bounded := stands.bounded
  have some : (span.extract text).length ≠ 0 := by
    obtain ⟨gap, _, same⟩ := isMarker
    simp [same]
  have length : (span.extract text).length = span.stop - span.start := by
    unfold Span.extract at some ⊢
    simp only [List.length_take, List.length_drop] at some ⊢
    omega
  refine ⟨text.take span.start, span.extract text, text.drop span.stop, ?_, isMarker, ?_, ?_⟩
  · have stop : span.stop = span.start + (span.stop - span.start) := by omega
    rw [Span.extract]
    conv_rhs => rw [stop, ← List.drop_drop]
    simp only [Nat.add_sub_cancel_left, List.take_append_drop]
  · rw [List.length_take]
    omega
  · rw [List.length_take, length]
    omega

theorem Stands.begins {span : Span} (stands : Stands tag text span) :
    Begins tag (text.drop span.start) := by
  obtain ⟨front, mark, rest, rfl, isMarker, start, _⟩ := stands.cut
  rw [start, List.drop_left]
  exact ⟨mark, isMarker, List.prefix_append mark rest⟩

/-- A marker behind the front of a text stands in the rest. -/
theorem Stands.begins_behind {front rest : List Char} {span : Span}
    (stands : Stands tag (front ++ rest) span) (behind : front.length ≤ span.start) :
    Begins tag (rest.drop (span.start - front.length)) := by
  have begins := stands.begins
  rwa [List.drop_append, List.drop_eq_nil_of_le behind, List.nil_append] at begins

theorem Begins.stands {rest : List Char} (begins : Begins tag rest) (front : List Char) :
    ∃ stop, Stands tag (front ++ rest) ⟨front.length, stop⟩ := by
  obtain ⟨mark, isMarker, rest, rfl⟩ := begins
  exact ⟨_, stands_append isMarker front rest⟩

/-- No marker begins in front of one if the text up to that one has none. -/
theorem Lacks.first (isTag : IsTag tag) {front rest : List Char} (lacks : Lacks tag front)
    (begins : Begins tag rest) {span : Span} (stands : Stands tag (front ++ rest) span) :
    front.length ≤ span.start := by
  by_contra earlier
  have split : (front ++ rest).drop span.start = front.drop span.start ++ rest :=
    List.drop_append_of_le_length (by omega)
  have some : front.drop span.start ≠ [] := by
    rw [Ne, List.drop_eq_nil_iff]
    exact earlier
  have behind : Lacks tag (front.drop span.start) := by
    rw [← List.take_append_drop span.start front] at lacks
    exact lacks.of_suffix
  have early := stands.begins
  rw [split] at early
  exact behind.not_begins_append isTag some begins early

theorem lacks_of_first {front : List Char} (rest : List Char) (first : ∀ place stop,
    Stands tag (front ++ rest) ⟨place, stop⟩ → front.length ≤ place) : Lacks tag front := by
  by_contra found
  obtain ⟨earlier, later, rfl, begins, _⟩ := exists_first found
  obtain ⟨behind, rfl⟩ := begins.slashes
  have begins : Begins tag ('/' :: '/' :: behind ++ rest) := by
    obtain ⟨mark, isMarker, before⟩ := begins
    exact ⟨mark, isMarker, before.trans (List.prefix_append _ rest)⟩
  obtain ⟨stop, stands⟩ := begins.stands earlier
  rw [← List.append_assoc] at stands
  have bound := first _ _ stands
  simp only [List.length_append, List.length_cons] at bound
  omega

/-! ## The region of a text -/

variable {head mark inner tail gap core trail : List Char}

theorem Region.encloses (region : Region head mark inner tail) :
    Encloses (head ++ (mark ++ (inner ++ tail)))
      ⟨head.length + mark.length, head.length + mark.length + inner.length⟩ := by
  have length : (head ++ mark).length = head.length + mark.length := List.length_append
  have longer : (head ++ mark ++ inner).length = head.length + mark.length + inner.length := by
    simp only [List.length_append]
  have split : head ++ (mark ++ (inner ++ tail)) = (head ++ mark ++ inner) ++ tail := by
    simp only [List.append_assoc]
  constructor
  · refine ⟨head.length, stands_append region.opening head (inner ++ tail), ?_⟩
    intro span stands
    have begins : Begins openTag (mark ++ (inner ++ tail)) :=
      ⟨mark, region.opening, List.prefix_append mark _⟩
    exact region.before.first isTag_openTag begins stands
  · exact Nat.le_add_right _ _
  · obtain ⟨stop, stands⟩ := region.closing.stands (head ++ mark ++ inner)
    rw [← split, longer] at stands
    exact ⟨stop, stands⟩
  · intro place behind closes
    obtain ⟨stop, stands⟩ := closes
    rw [← List.append_assoc] at stands
    have begins := stands.begins_behind (length.trans_le behind)
    obtain ⟨later, found⟩ := begins.stands
      ((inner ++ tail).take (place - (head ++ mark).length))
    rw [List.take_append_drop] at found
    have first := region.between.first isTag_closeTag region.closing found
    simp only [List.length_take, List.length_append] at first
    dsimp only at behind ⊢
    omega

theorem Encloses.cut {region : Span} (encloses : Encloses text region) :
    ∃ head mark inner tail, text = head ++ (mark ++ (inner ++ tail)) ∧
      Region head mark inner tail ∧ region = ⟨head.length + mark.length,
        head.length + mark.length + inner.length⟩ := by
  obtain ⟨opening, ordered, ⟨last, closing⟩, first⟩ := encloses
  obtain ⟨start, stands, earliest⟩ := opening
  obtain ⟨head, mark, rest, rfl, isMarker, begins, ends⟩ := stands.cut
  dsimp only at begins ends
  subst begins
  have length : (head ++ mark).length = region.start := by
    rw [List.length_append]
    omega
  rw [← List.append_assoc] at closing
  have tailed := closing.begins_behind (length.trans_le ordered)
  have bounded : region.stop - (head ++ mark).length ≤ rest.length := by
    by_contra beyond
    obtain ⟨behind, slashes⟩ := tailed.slashes
    rw [List.drop_eq_nil_of_le (Nat.le_of_not_le beyond)] at slashes
    cases slashes
  obtain ⟨inner, tail, rfl, inside⟩ : ∃ inner tail, rest = inner ++ tail ∧
      inner.length = region.stop - (head ++ mark).length :=
    ⟨_, _, (List.take_append_drop _ rest).symm, List.length_take_of_le bounded⟩
  rw [← inside, List.drop_left] at tailed
  refine ⟨head, mark, inner, tail, rfl, ⟨isMarker, ?_, tailed, ?_⟩, ?_⟩
  · exact lacks_of_first _ fun place stop stands => earliest _ stands
  · apply lacks_of_first tail
    intro place stop stands
    obtain ⟨later, found⟩ := stands.begins.stands
      (head ++ mark ++ (inner ++ tail).take place)
    rw [List.append_assoc (head ++ mark), List.take_append_drop, List.append_assoc] at found
    have behind := first _ (by simp only [List.length_append]; omega) ⟨later, found⟩
    simp only [List.length_append, List.length_take] at behind
    omega
  · cases region
    simp only [List.length_append, Span.mk.injEq] at length inside ordered ⊢
    omega

end PackageDoc.Marker

namespace PackageDoc
open Marker

end PackageDoc
