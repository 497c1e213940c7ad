import PackageDoc.Proofs.Marker.Meaning
import PackageDoc.Proofs.Marker.Written
import PackageDoc.Proofs.Regex.Within

/-! # Replacing a second time

A second replacement with the same body changes nothing if the pattern finds that body, or no region at
all, in what the first one wrote.  A body is put in as it is, so one that has a closing marker of its own
ends the region early, and then the second replacement puts in the body once more. -/
set_option autoImplicit false

namespace PackageDoc.Regex.Span

/-- A text holds another one at a span. -/
def Holds (span : Span) (text body : List Char) : Prop :=
  ∃ front rest, text = front ++ (body ++ rest) ∧ span = ⟨front.length, front.length + body.length⟩

theorem Holds.length {span : Span} {text body : List Char} (holds : span.Holds text body) :
    span.stop = span.start + body.length := by
  obtain ⟨front, rest, _, rfl⟩ := holds
  rfl

theorem holds_append (front body rest : List Char) (length : Nat) :
    Span.Holds ⟨front.length, front.length + length⟩ (front ++ (body ++ rest)) body ↔
      length = body.length := by
  constructor
  · intro holds
    exact Nat.add_left_cancel holds.length
  · intro same
    exact ⟨front, rest, rfl, by rw [same]⟩

/-- Replacing a part of a text by a body leaves the text as it is if the body is what stands there. -/
theorem replace_eq_iff {span : Span} {text : List Char} (body : List Char)
    (start : span.start ≤ text.length) (stop : span.stop ≤ text.length) :
    span.replace text body = text ↔ span.Holds text body := by
  constructor
  · intro same
    refine ⟨text.take span.start, text.drop span.stop, ?_, ?_⟩
    · rw [← List.append_assoc]
      exact same.symm
    · have length := congrArg List.length same
      simp only [replace, List.length_append, List.length_take, List.length_drop] at length
      cases span
      simp only [Span.mk.injEq, List.length_take] at start stop length ⊢
      omega
  · intro holds
    obtain ⟨front, rest, rfl, rfl⟩ := holds
    exact replace_append front body rest body

end PackageDoc.Regex.Span

namespace PackageDoc.MarkerPattern
open PackageDoc.Regex

variable {pattern : MarkerPattern}

/-- The region of a text, if the pattern finds one, holds a body. -/
def Shows (pattern : MarkerPattern) (text body : List Char) : Prop :=
  ∀ first existing third, pattern.region? text = some (first, existing, third) →
    existing.Holds text body

/-- After one replacement a second one changes nothing. -/
def Settles (pattern : MarkerPattern) (source body : String) : Prop :=
  let once := pattern.replace source body
  let again := pattern.replace once.content body
  again.changed = false ∧ again.content = once.content

theorem region_bounded {text : List Char} {first existing third : Span}
    (found : pattern.region? text = some (first, existing, third)) :
    existing.start ≤ text.length ∧ existing.stop ≤ text.length := by
  obtain ⟨slots, searched, _, second, _⟩ := region?_eq_some_iff.1 found
  exact Program.group_within searched second

theorem unchanged_iff_shows (source body : String) :
    (pattern.replace source body).changed = false ↔ pattern.Shows source.toList body.toList := by
  rw [← Bool.not_eq_true, changed_iff, ne_eq, not_not]
  unfold replace
  split
  · next none =>
    constructor
    · intro _ first existing third found
      rw [none] at found
      cases found
    · intro _
      rfl
  · next first existing third found =>
    obtain ⟨start, stop⟩ := region_bounded found
    dsimp only
    rw [← String.toList_inj, String.toList_ofList, Span.replace_eq_iff _ start stop]
    constructor
    · intro holds first' existing' third' found'
      rw [found] at found'
      cases found'
      exact holds
    · intro shows
      exact shows _ _ _ found

theorem settles_iff_shows (source body : String) : pattern.Settles source body ↔
    pattern.Shows (pattern.replace source body).content.toList body.toList := by
  rw [← unchanged_iff_shows]
  constructor
  · exact And.left
  · intro unchanged
    exact ⟨unchanged, content_of_unchanged unchanged⟩

theorem shows_iff_of_region {front body rest : List Char} {length : Nat} {first third : Span}
    (found : pattern.region? (front ++ (body ++ rest)) =
      some (first, ⟨front.length, front.length + length⟩, third)) :
    pattern.Shows (front ++ (body ++ rest)) body ↔ length = body.length := by
  rw [← Span.holds_append front body rest length]
  constructor
  · intro shows
    exact shows _ _ _ found
  · intro holds first' existing' third' found'
    rw [found] at found'
    cases found'
    exact holds

/-- A replacement that changes nothing changes nothing the second time. -/
theorem settles_of_unchanged {source body : String}
    (unchanged : (pattern.replace source body).changed = false) : pattern.Settles source body := by
  rw [settles_iff_shows, content_of_unchanged unchanged]
  exact (unchanged_iff_shows source body).1 unchanged

end PackageDoc.MarkerPattern

namespace PackageDoc.Marker
open PackageDoc.Regex PackageDoc.Unicode

/-! ## Between two texts -/

section Texts
variable {opening closing head inner tail : List Char}

/-- A new body leaves the place of the region, which ends at the first closing text from there on. -/
theorem Delimited.renewed (delimited : Delimited opening closing head inner tail)
    (body : List Char) : ∃ inner' tail',
      body ++ (closing ++ tail) = inner' ++ (closing ++ tail') ∧
        Delimited opening closing head inner' tail' := by
  have inside : closing <:+: body ++ (closing ++ tail) :=
    ⟨body, tail, List.append_assoc body closing tail⟩
  obtain ⟨inner', tail', whole, shortest⟩ := exists_shortest inside
  refine ⟨inner', tail', whole, ?_, whole ▸ shortest⟩
  intro front rest split closed
  by_contra earlier
  -- An earlier opening text would end within the part that stays, so it stood there before.
  have before : front ++ opening <+: head ++ opening := by
    have stood : front ++ opening <+: head ++ (opening ++ (inner' ++ (closing ++ tail'))) := by
      rw [split, ← List.append_assoc]
      exact List.prefix_append _ rest
    apply List.prefix_of_prefix_length_le stood
    · rw [← List.append_assoc]
      exact List.prefix_append _ _
    · simp only [List.length_append]
      omega
  obtain ⟨more, stays⟩ := before
  apply earlier
  apply delimited.first front (more ++ (inner ++ (closing ++ tail)))
  · rw [← List.append_assoc, ← stays]
    simp only [List.append_assoc]
  · exact ⟨more ++ inner, tail, by simp only [List.append_assoc]⟩

/-- The first closing text stands at the end of a body if none begins within it. -/
theorem length_shortest_iff {body inner' tail' : List Char}
    (same : body ++ (closing ++ tail) = inner' ++ (closing ++ tail'))
    (shortest : ∀ front, front ++ closing <+: body ++ (closing ++ tail) →
      inner'.length ≤ front.length) :
    inner'.length = body.length ↔
      ∀ front, front ++ closing <+: body ++ closing → body.length ≤ front.length := by
  rw [← List.append_assoc] at same shortest
  have ended : body ++ closing <+: body ++ closing ++ tail := List.prefix_append _ tail
  constructor
  · intro length front begins
    rw [← length]
    exact shortest front (begins.trans ended)
  · intro last
    apply Nat.le_antisymm (shortest body ended)
    have stands : inner' ++ closing <+: body ++ closing ++ tail := by
      rw [same, ← List.append_assoc]
      exact List.prefix_append _ tail'
    apply last
    apply List.prefix_of_prefix_length_le stands ended
    simp only [List.length_append]
    have bounded := shortest body ended
    omega

theorem settles_iff_of_delimits {pattern : MarkerPattern} {source body : String}
    (delimits : pattern.program.Delimits opening closing)
    (matched : (pattern.replace source body).matched = true) :
    pattern.Settles source body ↔ ∀ front, front ++ closing <+: body.toList ++ closing →
      body.toList.length ≤ front.length := by
  obtain ⟨first, existing, third, found, content⟩ := MarkerPattern.exists_region_of_matched matched
  obtain ⟨head, inner, tail, whole, delimited⟩ := exists_delimited_of_region? delimits found
  obtain ⟨first', third', located⟩ := region?_delimited delimits delimited
  rw [← whole, found] at located
  cases located
  obtain ⟨inner', tail', same, renewed⟩ := delimited.renewed body.toList
  obtain ⟨_, _, again⟩ := region?_delimited delimits renewed
  rw [← List.append_assoc, ← same] at again
  rw [whole, ← List.append_assoc, Span.replace_append] at content
  have shortest := renewed.shortest
  rw [← same] at shortest
  rw [MarkerPattern.settles_iff_shows, content, MarkerPattern.shows_iff_of_region again]
  exact length_shortest_iff same shortest

end Texts

/-! ## The default pattern -/

theorem trim_blank_append {lead : List Char} (blank : IsBlank lead) (text : List Char) :
    trim (lead ++ text) = trim text := by
  have skipped : (lead ++ text).dropWhile isWhiteSpace = text.dropWhile isWhiteSpace :=
    List.dropWhile_append_of_pos blank
  rw [trim, skipped, trim]

theorem length_trim_le (text : List Char) : (trim text).length ≤ text.length := by
  obtain ⟨lead, trail, padded⟩ := exists_padded text
  conv_rhs => rw [padded.whole]
  simp only [List.length_append]
  omega

theorem settles_default_iff {source body : String} (trimmed : Trimmed body.toList)
    (matched : (MarkerPattern.default.replace source body).matched = true) :
    MarkerPattern.default.Settles source body ↔ Lacks closeTag body.toList := by
  constructor
  · intro settles
    by_contra closed
    obtain ⟨front, rest, split, begins, lacks⟩ := exists_first closed
    obtain ⟨head, mark, inner, tail, whole, region⟩ := (matched_iff_region source body).1 matched
    obtain ⟨gap, trail, padded⟩ := exists_padded inner
    have once := replace_of_region region padded whole body
    -- The region of the new content ends at the closing marker within the body.
    have early : Region head mark (gap ++ front) (rest ++ (trail ++ tail)) := by
      refine ⟨region.opening, region.before, ?_, ?_⟩
      · obtain ⟨last, closing, ends⟩ := begins
        exact ⟨last, closing, ends.trans (List.prefix_append _ _)⟩
      · have between := lacks.surround isTag_closeTag padded.front (fun _ => nofun : IsBlank [])
        rwa [List.append_nil] at between
    obtain ⟨gap', trail', padded'⟩ := exists_padded (gap ++ front)
    obtain ⟨_, _, found⟩ := region?_of_region early padded'
    have content : (MarkerPattern.default.replace source body).content.toList =
        head ++ (mark ++ ((gap ++ front) ++ (rest ++ (trail ++ tail)))) := by
      rw [once, String.toList_ofList, split]
      simp only [List.append_assoc]
    have shows := (MarkerPattern.settles_iff_shows source body).1 settles
    rw [content] at shows
    have length := (shows _ _ _ found).length
    have shorter := length_trim_le front
    obtain ⟨behind, rfl⟩ := begins.slashes
    rw [trim_blank_append padded.front, split] at length
    simp only [List.length_append, List.length_cons] at length
    omega
  · intro lacks
    rw [MarkerPattern.Settles]
    rw [replace_again trimmed lacks matched]
    exact ⟨rfl, rfl⟩

end PackageDoc.Marker

namespace PackageDoc
open Marker Regex

/-- A second replacement changes nothing exactly if the new content has no region or one that holds the
body.  What that means for the body is told for patterns that are written with two texts and for the
default one: it must not bring a closing text of its own. -/
theorem repeated_replacement (pattern : MarkerPattern) (source body : String) :
    let once := pattern.replace source body
    (pattern.Settles source body ↔ pattern.Shows once.content.toList body.toList) ∧
    (once.matched = false ∨ once.changed = false → pattern.Settles source body) ∧
    (∀ opening closing, IsPlain opening → IsPlain closing →
      MarkerPattern.parse (String.ofList (written opening closing)) = .ok pattern →
      once.matched = true →
      (pattern.Settles source body ↔ ∀ front, front ++ closing <+: body.toList ++ closing →
        body.toList.length ≤ front.length)) ∧
    (pattern = MarkerPattern.default → Trimmed body.toList → once.matched = true →
      (pattern.Settles source body ↔ Lacks closeTag body.toList)) := by
  intro once
  refine ⟨MarkerPattern.settles_iff_shows source body, ?_, ?_, ?_⟩
  · intro still
    apply MarkerPattern.settles_of_unchanged
    cases still with
    | inl unmatched =>
      by_contra changed
      rw [Bool.not_eq_false] at changed
      exact (MarkerPattern.changed_iff _ _ _).1 changed (MarkerPattern.content_of_unmatched unmatched)
    | inr unchanged => exact unchanged
  · intro opening closing first last parsed matched
    exact settles_iff_of_delimits (MarkerPattern.delimits_of_parse first last parsed) matched
  · intro same trimmed matched
    subst same
    exact settles_default_iff trimmed matched

namespace Sample

/-- The region between two tags, without white space around it. -/
def tagged : MarkerPattern :=
  ⟨"(?s)(<replace>)(.*?)(</replace>)", (writtenExpr openTag closeTag).program⟩

end Sample

theorem repeated_replacement_sample :
    MarkerPattern.default.Settles "class A \x7b\x7d" "y" ∧
    MarkerPattern.default.Settles "// <replace> x // </replace>" "y" ∧
    Sample.tagged.Settles "<replace>x</replace>" "y" := by
  refine ⟨?_, ?_, ?_⟩
  · have theorems := repeated_replacement MarkerPattern.default "class A \x7b\x7d" "y"
    exact theorems.2.1 (.inl (by decide +kernel))
  · have theorems := repeated_replacement MarkerPattern.default "// <replace> x // </replace>" "y"
    have trimmed : Trimmed "y".toList := by decide
    exact (theorems.2.2.2 rfl trimmed (by decide +kernel)).2 (lacks_of_not_mem (by decide))
  · have theorems := repeated_replacement Sample.tagged "<replace>x</replace>" "y"
    have first : IsPlain openTag := by simp [IsPlain, openTag, signs]
    have last : IsPlain closeTag := by simp [IsPlain, closeTag, signs]
    refine (theorems.2.2.1 openTag closeTag first last rfl (by decide +kernel)).2 ?_
    intro front begins
    cases front with
    | nil => exact absurd begins (by decide)
    | cons c front => exact Nat.succ_le_succ (Nat.zero_le _)

/-- A body with a closing marker is put in once more by each replacement. -/
theorem closing_marker_repeats_body :
    let source := "// <replace> x // </replace>"
    let body := "a // </replace> b"
    let once := MarkerPattern.default.replace source body
    let again := MarkerPattern.default.replace once.content body
    MarkerPattern.parse MarkerPattern.defaultSource = .ok MarkerPattern.default ∧
      Trimmed body.toList ∧ again.changed = true ∧ again.content ≠ once.content := by
  refine ⟨rfl, ?_, ?_, ?_⟩
  · decide
  · decide +kernel
  · decide +kernel

end PackageDoc
