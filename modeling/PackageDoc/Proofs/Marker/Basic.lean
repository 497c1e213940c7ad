import PackageDoc.Marker

/-! # Replacing a span

What a replacement says of itself, whatever the pattern. -/
set_option autoImplicit false

namespace PackageDoc.Regex.Span

theorem extract_append (front text rest : List Char) :
    extract ⟨front.length, front.length + text.length⟩ (front ++ (text ++ rest)) = text := by
  simp [extract]

theorem replace_append (front text rest body : List Char) :
    replace ⟨front.length, front.length + text.length⟩ (front ++ (text ++ rest)) body =
      front ++ (body ++ rest) := by
  simp [replace]

end PackageDoc.Regex.Span

namespace PackageDoc.MarkerPattern
open PackageDoc.Regex

variable {pattern : MarkerPattern} {source body : String}

theorem region?_eq_some_iff {text : List Char} {first existing third : Span} :
    pattern.region? text = some (first, existing, third) ↔
      ∃ slots, pattern.program.search text = some slots ∧ slots.group? 1 = some first ∧
        slots.group? 2 = some existing ∧ slots.group? 3 = some third := by
  simp only [region?, Option.bind_eq_bind, Option.bind_eq_some_iff]
  constructor
  · intro found
    obtain ⟨slots, searched, _, one, _, two, _, three, same⟩ := found
    cases same
    exact ⟨slots, searched, one, two, three⟩
  · intro found
    obtain ⟨slots, searched, one, two, three⟩ := found
    exact ⟨slots, searched, _, one, _, two, _, three, rfl⟩

theorem changed_iff (pattern : MarkerPattern) (source body : String) :
    (pattern.replace source body).changed = true ↔ (pattern.replace source body).content ≠ source := by
  unfold replace
  split
  · simp
  · simp

theorem content_of_unchanged (unchanged : (pattern.replace source body).changed = false) :
    (pattern.replace source body).content = source := by
  by_cases same : (pattern.replace source body).content = source
  · exact same
  · rw [(changed_iff pattern source body).2 same] at unchanged
    cases unchanged

theorem content_of_unmatched (unmatched : (pattern.replace source body).matched = false) :
    (pattern.replace source body).content = source := by
  unfold replace at unmatched ⊢
  split
  · rfl
  · next found =>
    rw [found] at unmatched
    cases unmatched

theorem exists_region_of_matched (matched : (pattern.replace source body).matched = true) :
    ∃ first existing third, pattern.region? source.toList = some (first, existing, third) ∧
      (pattern.replace source body).content.toList = existing.replace source.toList body.toList := by
  cases found : pattern.region? source.toList with
  | none => simp [replace, found] at matched
  | some spans =>
    obtain ⟨first, existing, third⟩ := spans
    refine ⟨first, existing, third, rfl, ?_⟩
    simp only [replace, found, String.toList_ofList]

end PackageDoc.MarkerPattern
