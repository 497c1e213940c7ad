import PackageDoc.Proofs.Marker.Basic
import PackageDoc.Proofs.Regex.GroupSpans

/-! # What becomes of the markers

A replacement writes over the span of the body only.  A marker whose span lies apart from it is found
again behind the replacement, moved by the change in length if it stood behind the body.  The span of a
marker that is written within the body, or around it, may overlap that of the body, and a replacement
writes over it. -/
set_option autoImplicit false

namespace PackageDoc.Regex.Span

/-- Where a span is found after a part of the text was replaced by a body of some length. -/
def moved (span replaced : Span) (length : Nat) : Span :=
  if replaced.stop ≤ span.start then
    ⟨span.start - replaced.stop + (replaced.start + length),
      span.stop - replaced.stop + (replaced.start + length)⟩
  else span

/-- The text of a span outlives the replacement of another one. -/
structure Survives (span replaced : Span) (text body : List Char) : Prop where
  forward : span.start ≤ span.stop
  bounded : span.stop ≤ text.length
  apart : span.Apart replaced
  kept : (span.moved replaced body.length).extract (replaced.replace text body) = span.extract text

variable {span replaced : Span} {text body : List Char}

theorem extract_getElem? (span : Span) (text : List Char) (place : Nat) : (span.extract text)[place]? =
    if place < span.stop - span.start then text[span.start + place]? else none := by
  rw [extract, List.getElem?_take, List.getElem?_drop]

theorem replace_getElem?_before (bounded : replaced.start ≤ text.length) {place : Nat}
    (before : place < replaced.start) : (replaced.replace text body)[place]? = text[place]? := by
  have inside : place < (text.take replaced.start).length := by
    rw [List.length_take]
    omega
  rw [replace, List.append_assoc, List.getElem?_append_left inside, List.getElem?_take, if_pos before]

theorem replace_getElem?_behind (bounded : replaced.start ≤ text.length) {place : Nat}
    (behind : replaced.stop ≤ place) :
    (replaced.replace text body)[place - replaced.stop + (replaced.start + body.length)]? =
      text[place]? := by
  have front : (text.take replaced.start ++ body).length = replaced.start + body.length := by
    rw [List.length_append, List.length_take, Nat.min_eq_left bounded]
  rw [replace, List.getElem?_append_right (by omega), front, List.getElem?_drop]
  congr 1
  omega

theorem survives_of_apart (forward : span.start ≤ span.stop) (bounded : span.stop ≤ text.length)
    (start : replaced.start ≤ text.length) (apart : span.Apart replaced) :
    span.Survives replaced text body := by
  refine ⟨forward, bounded, apart, List.ext_getElem? fun place => ?_⟩
  rw [extract_getElem?, extract_getElem?]
  by_cases behind : replaced.stop ≤ span.start
  · have shift : span.start - replaced.stop + (replaced.start + body.length) + place =
        span.start + place - replaced.stop + (replaced.start + body.length) := by omega
    have length : span.stop - replaced.stop + (replaced.start + body.length) -
        (span.start - replaced.stop + (replaced.start + body.length)) = span.stop - span.start := by
      omega
    rw [moved, if_pos behind]
    dsimp only
    rw [length, shift, replace_getElem?_behind start (Nat.le_trans behind (Nat.le_add_right _ _))]
  · have before : span.stop ≤ replaced.start := apart.resolve_right behind
    rw [moved, if_neg behind]
    split
    next inside => exact replace_getElem?_before start (by omega)
    · rfl

end PackageDoc.Regex.Span

namespace PackageDoc.MarkerPattern
open PackageDoc.Regex

/-- Neither of two groups of a pattern is written within the other. -/
def Separates (pattern : MarkerPattern) (one other : Nat) : Prop :=
  ∀ tree, Tree.parse pattern.source.toList = .ok tree → tree.Separates one other

theorem compile_of_parse {written : String} {pattern : MarkerPattern}
    (parsed : parse written = .ok pattern) : compile pattern.source = .ok pattern.program := by
  unfold parse at parsed
  split at parsed
  · cases parsed
  next program compiled =>
    split at parsed
    · cases parsed
      exact compiled
    · cases parsed

/-- How the spans of a region lie in a text. -/
structure Spread (pattern : MarkerPattern) (length : Nat) (first existing third : Span) : Prop where
  firstIn : first.start ≤ first.stop ∧ first.stop ≤ length
  existingIn : existing.start ≤ existing.stop ∧ existing.stop ≤ length
  thirdIn : third.start ≤ third.stop ∧ third.stop ≤ length
  around : first.Apart existing ∨ (¬ pattern.Separates 1 2 ∧ existing.Inside first)
  within : existing.Apart third ∨ (¬ pattern.Separates 2 3 ∧ third.Inside existing)

theorem region_spread {pattern : MarkerPattern} (compiled : compile pattern.source = .ok pattern.program)
    {text : List Char} {first existing third : Span}
    (found : pattern.region? text = some (first, existing, third)) :
    pattern.Spread text.length first existing third := by
  obtain ⟨slots, searched, one, two, three⟩ := region?_eq_some_iff.1 found
  obtain ⟨tree, read, parted⟩ := search_parted compiled
  obtain ⟨_, around⟩ := parted 1 2 (by decide) searched
  obtain ⟨_, within⟩ := parted 2 3 (by decide) searched
  have told : ∀ {one other : Nat} {span span' : Span},
      span.Apart span' ∨ (¬ tree.Separates one other ∧ span'.Inside span) →
      span.Apart span' ∨ (¬ pattern.Separates one other ∧ span'.Inside span) := by
    intro one other span span' lies
    refine lies.imp_right fun joined => ⟨fun separates => ?_, joined.2⟩
    exact joined.1 (separates tree read)
  exact
    { firstIn := ⟨around.group_forward one, (Program.group_within searched one).2⟩
      existingIn := ⟨around.group_forward two, (Program.group_within searched two).2⟩
      thirdIn := ⟨around.group_forward three, (Program.group_within searched three).2⟩
      around := told (around.groups_apart one two)
      within := told (within.groups_apart two three) }

/-- The markers of a region outlive the replacement of its body, unless the pattern writes the body
within a marker or a marker within the body, and the spans lie so, too. -/
theorem markers_survive {written : String} {pattern : MarkerPattern}
    (parsed : parse written = .ok pattern) (source body : String)
    (matched : (pattern.replace source body).matched = true) :
    ∃ first existing third, pattern.region? source.toList = some (first, existing, third) ∧
      (pattern.replace source body).content.toList = existing.replace source.toList body.toList ∧
      (first.Survives existing source.toList body.toList ∨
        (¬ pattern.Separates 1 2 ∧ existing.Inside first)) ∧
      (third.Survives existing source.toList body.toList ∨
        (¬ pattern.Separates 2 3 ∧ third.Inside existing)) := by
  obtain ⟨first, existing, third, found, content⟩ := exists_region_of_matched matched
  have spread := region_spread (compile_of_parse parsed) found
  have start : existing.start ≤ source.toList.length :=
    Nat.le_trans spread.existingIn.1 spread.existingIn.2
  refine ⟨first, existing, third, found, content, ?_, ?_⟩
  · cases spread.around with
    | inl apart =>
      exact .inl (Span.survives_of_apart spread.firstIn.1 spread.firstIn.2 start apart)
    | inr joined => exact .inr joined
  · cases spread.within with
    | inl apart =>
      exact .inl (Span.survives_of_apart spread.thirdIn.1 spread.thirdIn.2 start apart.symm)
    | inr joined => exact .inr joined

namespace Sample

/-- Three groups, one after the other. -/
def sequential : MarkerPattern :=
  ⟨"(<)(.*?)(>)", (compile "(<)(.*?)(>)").toOption.getD never⟩

/-- The suffix marker is written within the body. -/
def swallowing : MarkerPattern :=
  ⟨"(<replace>)(.*?(</replace>))", (compile "(<replace>)(.*?(</replace>))").toOption.getD never⟩

end Sample

theorem markers_survive_sample :
    Sample.sequential.Separates 1 2 ∧ Sample.sequential.Separates 2 3 ∧
    ∃ first existing third,
      Sample.sequential.region? "x <OLD> y".toList = some (first, existing, third) ∧
      first.Survives existing "x <OLD> y".toList "NEW BODY".toList ∧
      third.Survives existing "x <OLD> y".toList "NEW BODY".toList := by
  have read : Tree.parse Sample.sequential.source.toList = .ok (.concat
      [.group (.capture 1) (.literal ⟨'<', false⟩), .group (.capture 2) (.loop .dot 0 none false),
        .group (.capture 3) (.literal ⟨'>', false⟩)]) := rfl
  have one : Sample.sequential.Separates 1 2 := by
    intro tree parsed
    rw [read] at parsed
    cases parsed
    simp [Tree.Separates, Tree.Nests, Tree.NestsAll]
  have two : Sample.sequential.Separates 2 3 := by
    intro tree parsed
    rw [read] at parsed
    cases parsed
    simp [Tree.Separates, Tree.Nests, Tree.NestsAll]
  have parsed : parse Sample.sequential.source = .ok Sample.sequential := rfl
  obtain ⟨first, existing, third, found, _, before, behind⟩ :=
    markers_survive parsed "x <OLD> y" "NEW BODY" (by decide +kernel)
  refine ⟨one, two, first, existing, third, found, ?_, ?_⟩
  · exact before.resolve_right fun joined => joined.1 one
  · exact behind.resolve_right fun joined => joined.1 two

/-- The suffix marker is gone after the replacement: its span lies within that of the body. -/
theorem swallowed_marker_is_lost :
    let source := "<replace>OLD</replace>"
    parse Sample.swallowing.source = .ok Sample.swallowing ∧
      (Sample.swallowing.replace source "NEW").matched = true ∧
      Sample.swallowing.region? source.toList = some (⟨0, 9⟩, ⟨9, 22⟩, ⟨12, 22⟩) ∧
      ¬ (Span.Apart ⟨12, 22⟩ ⟨9, 22⟩) ∧
      (Sample.swallowing.replace source "NEW").content = "<replace>NEW" := by
  refine ⟨rfl, ?_, ?_, ?_, ?_⟩
  · decide +kernel
  · decide +kernel
  · decide
  · decide +kernel

end PackageDoc.MarkerPattern
