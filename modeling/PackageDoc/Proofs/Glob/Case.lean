import PackageDoc.Proofs.Glob.Segments

/-! # Matching without case

Lowering a glob and a name leaves their dots, their stars and what is empty between the dots, so matching
without case is matching the lowered texts.  What matches as written matches without case too, unless a
segment with a question mark meets an `İ`: its expansion has two characters, and the question mark takes
one. -/
set_option autoImplicit false

namespace PackageDoc.Glob
open PackageDoc.Text PackageDoc.Unicode

/-! ## Segments of a lowered text -/

theorem lowercaseAll_eq_anyDepth_iff {segment : Segment} :
    lowercaseAll segment = anyDepth ↔ segment = anyDepth := by
  have low : '*'.toNat < 'A'.toNat := by decide
  unfold anyDepth
  rw [lowercaseAll_eq_cons_iff low]
  simp only [lowercaseAll_eq_cons_iff low, lowercaseAll_eq_nil_iff]
  simp

theorem collapse_map (found : List Segment) :
    collapse (found.map lowercaseAll) = (collapse found).map lowercaseAll := by
  induction found with
  | nil => rfl
  | cons segment rest ih =>
    rw [List.map_cons, collapse, collapse, ih]
    cases collapse rest with
    | nil => rfl
    | cons next others =>
      simp only [List.map_cons, lowercaseAll_eq_anyDepth_iff]
      split
      · rfl
      · rfl

theorem segments_lowercaseAll (text : List Char) :
    segments (lowercaseAll text) = (segments text).map lowercaseAll := by
  have low : separator.toNat < 'A'.toNat := by decide
  have cut : pieces separator (lowercaseAll text) = (pieces separator text).map lowercaseAll :=
    pieces_flatMap separator (lowercase_of_low low)
      (fun _ other member => other ((mem_lowercase_iff low).1 member)) text
  have filled : ∀ segment : Segment, (!(lowercaseAll segment).isEmpty) = !segment.isEmpty := by
    intro segment
    rw [Bool.eq_iff_iff]
    simp [lowercaseAll_eq_nil_iff]
  unfold segments
  rw [cut, List.filter_map, ← collapse_map]
  simp only [Function.comp_def, filled]

theorem globSegments_lowercaseAll (glob : List Char) :
    globSegments (lowercaseAll glob) = (globSegments glob).map lowercaseAll := by
  have low : separator.toNat < 'A'.toNat := by decide
  have deep : ∀ found : List Segment, (found.map lowercaseAll).getLast? = some anyDepth ↔
      found.getLast? = some anyDepth := by
    intro found
    rw [List.getLast?_map, Option.map_eq_some_iff]
    simp only [lowercaseAll_eq_anyDepth_iff, exists_eq_right]
  have kept : lowercaseAll anyDepth = anyDepth := lowercaseAll_eq_anyDepth_iff.2 rfl
  unfold globSegments
  simp only [segments_lowercaseAll, getLast?_lowercaseAll_iff low, ne_eq, deep]
  split
  · rw [List.map_append, List.map_singleton, kept]
  · rfl

theorem acceptsSegments_map : ∀ (glob names : List Segment),
    acceptsSegments true (glob.map lowercaseAll) (names.map lowercaseAll) =
      acceptsSegments false glob names := by
  intro glob
  induction glob with
  | nil =>
    intro names
    cases names with
    | nil => rfl
    | cons name names => rfl
  | cons segment glob ih =>
    intro names
    rw [List.map_cons]
    unfold acceptsSegments
    simp only [lowercaseAll_eq_anyDepth_iff]
    split
    next => simp only [List.length_map, ← List.map_drop, ih]
    next =>
      cases names with
      | nil => rfl
      | cons name names =>
        have same : segmentAccepts true (lowercaseAll segment) (lowercaseAll name) =
            segmentAccepts false segment name := rfl
        simp only [List.map_cons, same, ih]

/-- A glob accepts a name without case exactly if the lowered glob accepts the lowered name. -/
theorem accepts_lowered (glob package : String) :
    accepts glob package false = accepts (lowered glob) (lowered package) true := by
  unfold accepts
  rw [toList_lowered, toList_lowered, globSegments_lowercaseAll, segments_lowercaseAll,
    acceptsSegments_map]

/-! ## Lowering what matches -/

theorem takes_append_iff (same : List Char) {wildcard text : List Char} :
    Takes (same ++ wildcard) (same ++ text) ↔ Takes wildcard text := by
  induction same with
  | nil => rfl
  | cons c same ih => rw [List.cons_append, List.cons_append, takes_next_iff (.inr rfl), ih]

theorem Takes.lowercaseAll {wildcard text : List Char} (takes : Takes wildcard text)
    (single : '?' ∉ wildcard ∨ 'İ' ∉ text) : Takes (lowercaseAll wildcard) (lowercaseAll text) := by
  induction takes with
  | nil => exact .nil
  | @next wildcard text sign c agrees _ ih =>
    have later := ih (single.imp (mt (List.mem_cons_of_mem _)) (mt (List.mem_cons_of_mem _)))
    -- A question mark still takes one character; any other sign is lowered with the character it takes.
    rcases agrees with rfl | rfl
    · have other : c ≠ 'İ' := by
        rintro rfl
        exact single.elim (fun free => free List.mem_cons_self) fun free => free List.mem_cons_self
      obtain ⟨lower, expanded, _⟩ := exists_lowercase_eq other
      rw [lowercaseAll_low_cons (by decide), lowercaseAll_cons, expanded, List.singleton_append]
      exact .next (.inl rfl) later
    · rw [lowercaseAll_cons, lowercaseAll_cons]
      exact (takes_append_iff _).2 later
  | @star wildcard rest run apart _ ih =>
    have low : '*'.toNat < 'A'.toNat := by decide
    rw [lowercaseAll_low_cons low, takes_star_iff (mt (head?_lowercaseAll_iff low).1 apart)]
    refine ⟨_, ?_, ih (single.imp (mt (List.mem_cons_of_mem _)) (mt (List.mem_append_right _)))⟩
    rw [lowercaseAll_append]
    exact List.suffix_append _ _

theorem segment_loses_only_expansion {segment name : Segment}
    (before : segmentAccepts true segment name = true)
    (after : segmentAccepts false segment name = false) : '?' ∈ segment ∧ 'İ' ∈ name := by
  have refused : ¬ Takes (compared false segment) (compared false name) := by
    rw [← takes_iff, Bool.not_eq_true]
    exact after
  have lowers := ((takes_iff segment name).1 before).lowercaseAll
  by_cases mark : '?' ∈ segment
  · by_cases dotted : 'İ' ∈ name
    · exact ⟨mark, dotted⟩
    · exact absurd (lowers (.inr dotted)) refused
  · exact absurd (lowers (.inl mark)) refused

/-- What a glob no longer accepts when case counts differently was lost by one of its segments. -/
theorem accepts_or_segment_loses {before after : Bool} : ∀ {glob names : List Segment},
    acceptsSegments before glob names = true →
      acceptsSegments after glob names = true ∨
        ∃ segment ∈ glob, ∃ name ∈ names,
          segmentAccepts before segment name = true ∧ segmentAccepts after segment name = false := by
  intro glob
  induction glob with
  | nil => intro names accepted; exact .inl accepted
  | cons segment glob ih =>
    intro names accepted
    by_cases deep : segment = anyDepth
    · subst deep
      obtain ⟨rest, suffix, accepted⟩ := acceptsSegments_anyDepth_iff.1 accepted
      rcases ih accepted with kept | ⟨other, member, name, inside, loses⟩
      · exact .inl (acceptsSegments_anyDepth_iff.2 ⟨rest, suffix, kept⟩)
      · exact .inr ⟨other, List.mem_cons_of_mem _ member, name, suffix.mem inside, loses⟩
    · obtain ⟨name, rest, rfl, here, accepted⟩ := (acceptsSegments_ordinary_iff deep).1 accepted
      cases still : segmentAccepts after segment name with
      | false => exact .inr ⟨segment, List.mem_cons_self, name, List.mem_cons_self, here, still⟩
      | true =>
        rcases ih accepted with kept | ⟨other, member, next, inside, loses⟩
        · exact .inl ((acceptsSegments_ordinary_iff deep).2 ⟨name, rest, rfl, still, kept⟩)
        · exact .inr ⟨other, List.mem_cons_of_mem _ member, next, List.mem_cons_of_mem _ inside,
            loses⟩

/-! ## Characters of segments -/

theorem mem_of_mem_collapse : ∀ {found : List Segment} {segment : Segment},
    segment ∈ collapse found → segment ∈ found := by
  intro found
  induction found with
  | nil => intro segment member; exact member
  | cons first rest ih =>
    intro segment member
    rw [collapse] at member
    cases tail : collapse rest with
    | nil =>
      rw [tail, List.mem_singleton] at member
      rw [member]
      exact List.mem_cons_self
    | cons next others =>
      rw [tail] at ih
      simp only [tail] at member
      split at member
      · exact List.mem_cons_of_mem _ (ih member)
      · rcases List.mem_cons.1 member with rfl | later
        · exact List.mem_cons_self
        · exact List.mem_cons_of_mem _ (ih later)

theorem mem_of_mem_segments {text : List Char} {segment : Segment} (member : segment ∈ segments text)
    {c : Char} (inside : c ∈ segment) : c ∈ text :=
  mem_of_mem_dotted (mem_of_mem_collapse member) inside

theorem mem_of_mem_globSegments {glob : List Char} {segment : Segment}
    (member : segment ∈ globSegments glob) {c : Char} (inside : c ∈ segment) (other : c ≠ '*') :
    c ∈ glob := by
  unfold globSegments at member
  dsimp only at member
  split at member
  · rcases List.mem_append.1 member with found | last
    · exact mem_of_mem_segments found inside
    · rw [List.mem_singleton.1 last] at inside
      exact absurd inside (by simp [anyDepth, other])
  · exact mem_of_mem_segments member inside

/-- What a glob accepts as written it accepts without case, unless a segment with a question mark loses a
segment of the name with an `İ`. -/
theorem lost_only_at_expansion (glob package : String) (accepted : accepts glob package true = true) :
    ('?' ∉ glob.toList ∨ 'İ' ∉ package.toList → accepts glob package false = true) ∧
    (accepts glob package false = false →
      ∃ segment ∈ globSegments glob.toList, ∃ name ∈ segments package.toList,
        '?' ∈ segment ∧ 'İ' ∈ name ∧
          segmentAccepts true segment name = true ∧ segmentAccepts false segment name = false) := by
  rcases accepts_or_segment_loses accepted with kept | ⟨segment, member, name, inside, before, after⟩
  · refine ⟨fun _ => kept, ?_⟩
    intro refused
    exact absurd kept (Bool.eq_false_iff.1 refused)
  · obtain ⟨mark, dotted⟩ := segment_loses_only_expansion before after
    refine ⟨?_, fun _ => ⟨segment, member, name, inside, mark, dotted, before, after⟩⟩
    rintro (free | free)
    · exact absurd (mem_of_mem_globSegments member mark (by decide)) free
    · exact absurd (mem_of_mem_segments inside dotted) free

theorem lost_only_at_expansion_sample :
    accepts "?om.*od??.V?" "Com.Model.V2" true = true ∧ 'İ' ∉ "Com.Model.V2".toList ∧
      accepts "?om.*od??.V?" "Com.Model.V2" false = true := by
  have accepted : accepts "?om.*od??.V?" "Com.Model.V2" true = true := by decide +kernel
  have free : 'İ' ∉ "Com.Model.V2".toList := by decide
  exact ⟨accepted, free, (lost_only_at_expansion _ _ accepted).1 (.inr free)⟩

/-- Without case a question mark does not take an `İ`. -/
theorem mark_refuses_expansion :
    accepts "?" "İ" true = true ∧ accepts "?" "İ" false = false := by
  decide +kernel

end PackageDoc.Glob
