import PackageDoc.Proofs.Marker.Default

/-! # Replacing a region again

A replacement leaves the markers where they were.  If the new body has no closing marker and no white
space at its ends, the default pattern finds it again, so a second replacement changes nothing. -/
set_option autoImplicit false

namespace PackageDoc.Marker
open PackageDoc.Regex PackageDoc.Unicode

variable {head mark inner tail gap core trail : List Char}

theorem region?_of_region (region : Region head mark inner tail)
    (padded : Padded inner gap core trail) :
    ∃ first third, MarkerPattern.default.region? (head ++ (mark ++ (inner ++ tail))) =
      some (first, ⟨head.length + mark.length + gap.length,
        head.length + mark.length + gap.length + core.length⟩, third) := by
  obtain ⟨slots, found, groups⟩ :=
    search_region region.opening region.closing region.between padded head 0 none region.before
  rw [Nat.zero_add] at groups
  rw [← default_program] at found
  exact groups.region? found

theorem exists_region_of_region? {text : List Char} {spans : Span × Span × Span}
    (found : MarkerPattern.default.region? text = some spans) :
    ∃ head mark inner tail, text = head ++ (mark ++ (inner ++ tail)) ∧
      Region head mark inner tail := by
  by_cases other : ∀ mark rest, IsMarker openTag mark → mark ++ rest <:+ text →
      Lacks closeTag rest
  · unfold MarkerPattern.region? Program.search at found
    rw [default_program, search_none text 0 none other] at found
    cases found
  · simp only [not_forall] at other
    obtain ⟨mark, rest, opening, inside, closed⟩ := other
    exact exists_region opening closed inside

theorem replace_of_region (region : Region head mark inner tail)
    (padded : Padded inner gap core trail) {source : String}
    (whole : source.toList = head ++ (mark ++ (inner ++ tail))) (body : String) :
    let content := String.ofList (head ++ (mark ++ ((gap ++ (body.toList ++ trail)) ++ tail)))
    MarkerPattern.default.replace source body = ⟨content, true, content != source⟩ := by
  intro content
  obtain ⟨first, third, found⟩ := region?_of_region region padded
  have split : source.toList = (head ++ (mark ++ gap)) ++ (core ++ (trail ++ tail)) := by
    rw [whole, padded.whole]
    simp only [List.append_assoc]
  have front : head.length + mark.length + gap.length = (head ++ (mark ++ gap)).length := by
    simp only [List.length_append]
    omega
  have replaced : Span.replace ⟨head.length + mark.length + gap.length,
      head.length + mark.length + gap.length + core.length⟩ source.toList body.toList =
      head ++ (mark ++ ((gap ++ (body.toList ++ trail)) ++ tail)) := by
    rw [split, front, Span.replace_append]
    simp only [List.append_assoc]
  unfold MarkerPattern.replace
  rw [whole, found]
  dsimp only
  rw [← whole, replaced]

theorem matched_iff_region (source body : String) :
    (MarkerPattern.default.replace source body).matched = true ↔
      ∃ head mark inner tail, source.toList = head ++ (mark ++ (inner ++ tail)) ∧
        Region head mark inner tail := by
  constructor
  · intro matched
    obtain ⟨first, existing, third, found, _⟩ := MarkerPattern.exists_region_of_matched matched
    exact exists_region_of_region? found
  · intro parts
    obtain ⟨head, mark, inner, tail, whole, region⟩ := parts
    obtain ⟨gap, trail, padded⟩ := exists_padded inner
    rw [replace_of_region region padded whole body]

/-- Replacing a region twice is replacing it once. -/
theorem replace_again {source body : String} (trimmed : Trimmed body.toList)
    (lacks : Lacks closeTag body.toList)
    (matched : (MarkerPattern.default.replace source body).matched = true) :
    MarkerPattern.default.replace (MarkerPattern.default.replace source body).content body =
      ⟨(MarkerPattern.default.replace source body).content, true, false⟩ := by
  obtain ⟨head, mark, inner, tail, whole, region⟩ := (matched_iff_region source body).1 matched
  obtain ⟨gap, trail, padded⟩ := exists_padded inner
  have once := replace_of_region region padded whole body
  have between : Lacks closeTag (gap ++ (body.toList ++ trail)) :=
    lacks.surround isTag_closeTag padded.front padded.behind
  have renewed : Region head mark (gap ++ (body.toList ++ trail)) tail :=
    ⟨region.opening, region.before, region.closing, between⟩
  obtain ⟨gap', trail', padded'⟩ := trimmed.exists_padded padded.front padded.behind
  have twice := replace_of_region renewed padded' (String.toList_ofList) body
  rw [← padded'.whole] at twice
  rw [once]
  dsimp only
  rw [twice, bne_self_eq_false]

end PackageDoc.Marker
